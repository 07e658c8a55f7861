import EditGuard.Proofs.Dictionary
import EditGuard.Proofs.Rule.Findings

/-!
# Where a checked rule may read unbound variables

The check visits every part of a rule in the order of the text, and a variable counts as
assigned from the end of its assignment on.  The evaluation passes over some parts.  A
variable that the check has accepted is unbound where it is read only if the evaluation has
passed over a part that assigns it.
-/

namespace EditGuard.Rule

open Variable (Host)

/-! ## What an evaluation passes over -/

/-- An expression or a part of it assigns a local variable. -/
inductive Assigns : Rule → String → Prop
  | assign {span x e} : Assigns (.assign span x e) x
  | setter {span f target value text} (found : Function.find f 2 = .ok .setter)
      (literal : target.literalText? = some text) :
      Assigns (.call span f [target, value]) (Variable.fold text)
  | operand {e d x} (member : d ∈ e.operands) (inside : Assigns d x) : Assigns e x

/-- The turn of one of several expressions that are evaluated one after the other, with the
state in which it starts. -/
inductive Turn (host : Host) : List Rule → State → Rule → State → Prop
  | first {e es s} : Turn host (e :: es) s e s
  | later {e es d v s t u} (ran : (eval host e).run.run s = (.ok v, t))
      (turn : Turn host es t d u) : Turn host (e :: es) s d u

/-- The evaluation of an expression evaluates another one directly below it, with the states
in which the two start. -/
inductive Operand (host : Host) : Rule → State → Rule → State → Prop
  | list {span es s d t} (turn : Turn host es s d t) : Operand host (.list span es) s d t
  | unary {span op e s} : Operand host (.unary span op e) s e s
  | arith {span op l r s d t} (turn : Turn host [l, r] s d t) :
      Operand host (.arith span op l r) s d t
  | compare {span op l r s d t u} (counted : Eval.count.run.run s = (.ok (), t))
      (turn : Turn host [l, r] t d u) : Operand host (.compare span op l r) s d u
  | left {span op l r s t} (counted : Eval.count.run.run s = (.ok (), t)) :
      Operand host (.logic span op l r) s l t
  | right {span op l r a s t u} (counted : Eval.count.run.run s = (.ok (), t))
      (left : (eval host l).run.run t = (.ok a, u)) (undecided : op.decided? a = none) :
      Operand host (.logic span op l r) s r u
  | keyword {span op l r s d t u} (counted : Eval.count.run.run s = (.ok (), t))
      (turn : Turn host [l, r] t d u) : Operand host (.keyword span op l r) s d u
  | condition {span c y n s t} (counted : Eval.count.run.run s = (.ok (), t)) :
      Operand host (.conditional span c y n) s c t
  | yes {span c y n v s t u} (counted : Eval.count.run.run s = (.ok (), t))
      (condition : (eval host c).run.run t = (.ok v, u)) (holds : v.toBool = true) :
      Operand host (.conditional span c y n) s y u
  | no {span c y n v s t u} (counted : Eval.count.run.run s = (.ok (), t))
      (condition : (eval host c).run.run t = (.ok v, u)) (defined : v.isUndefined = false)
      (fails : v.toBool = false) : Operand host (.conditional span c y (some n)) s n u
  | argument {span f args body s d t u} (counted : Eval.count.run.run s = (.ok (), t))
      (found : Function.find f args.length = .ok body) (ordinary : body ≠ .setter)
      (turn : Turn host args t d u) : Operand host (.call span f args) s d u
  | setter {span f target value text s t} (counted : Eval.count.run.run s = (.ok (), t))
      (found : Function.find f 2 = .ok .setter) (literal : target.literalText? = some text)
      (isLocal : Variable.isBuiltin (Variable.fold text) = false) :
      Operand host (.call span f [target, value]) s value t
  | index {span b i s d t} (turn : Turn host [b, i] s d t) : Operand host (.index span b i) s d t
  | assign {span x e s} (isLocal : Variable.isBuiltin x = false) :
      Operand host (.assign span x e) s e s
  | indexAssign {span x i e s current d t} (isLocal : Variable.isBuiltin x = false)
      (bound : s.locals.find? x = some current) (turn : Turn host (i.toList ++ [e]) s d t) :
      Operand host (.indexAssign span x i e) s d t
  | sequence {span es s d t} (turn : Turn host es s d t) : Operand host (.sequence span es) s d t

/-- The evaluation of an expression goes on behind a part directly below it that it does not
evaluate: the right side of a logic operator that the left side decides, and the branches
that the condition rules out. -/
inductive Skips (host : Host) : Rule → State → Rule → Prop
  | right {span op l r a b s t u} (counted : Eval.count.run.run s = (.ok (), t))
      (left : (eval host l).run.run t = (.ok a, u)) (decided : op.decided? a = some b) :
      Skips host (.logic span op l r) s r
  | yes {span c y n v s t u} (counted : Eval.count.run.run s = (.ok (), t))
      (condition : (eval host c).run.run t = (.ok v, u)) (fails : v.toBool = false) :
      Skips host (.conditional span c y n) s y
  | undefined {span c y n v s t u} (counted : Eval.count.run.run s = (.ok (), t))
      (condition : (eval host c).run.run t = (.ok v, u)) (undefined : v.isUndefined = true) :
      Skips host (.conditional span c y (some n)) s n
  | no {span c y n v w s t u z} (counted : Eval.count.run.run s = (.ok (), t))
      (condition : (eval host c).run.run t = (.ok v, u)) (holds : v.toBool = true)
      (branch : (eval host y).run.run u = (.ok w, z)) :
      Skips host (.conditional span c y (some n)) s n

/-- The evaluation of an expression, or of a part that it evaluates, skips a part. -/
inductive PassesOver (host : Host) : Rule → State → Rule → Prop
  | here {e s d} (skips : Skips host e s d) : PassesOver host e s d
  | inside {e s d t p} (operand : Operand host e s d t) (more : PassesOver host d t p) :
      PassesOver host e s p

/-! ## Local variables in the check -/

namespace Check

variable {c d : CheckState}

/-- A variable that is read with success was assigned before or may be provided by a host. -/
theorem succeeds_readVariable {span : Span} {name : String}
    (ran : Succeeds (readVariable span name) c () d) :
    (∀ x, d.locals.contains x = c.locals.contains x) ∧
      (c.locals.contains name = true ∨
        Variable.isWithdrawn name = false ∧ Variable.isBuiltin name = true) := by
  unfold readVariable at ran
  obtain ⟨_, _, got, ran⟩ := ran.bind
  cases got
  split at ran
  · rename_i l found
    cases ran
    have known : c.locals.contains name = true := by simp [Dictionary.contains, found]
    refine ⟨?_, .inl known⟩
    intro x
    rw [Dictionary.contains_insert]
    by_cases same : x = name
    · simp [same, known]
    · simp [same]
  split at ran
  · exact (not_succeeds_refuse ran).elim
  rename_i available
  have available := Bool.eq_false_iff.mpr available
  split at ran
  · rename_i replacement renamed
    cases ran
    exact ⟨fun _ => rfl, .inr ⟨available, by simp [Variable.isBuiltin, renamed]⟩⟩
  split at ran
  · rename_i builtin
    cases ran
    exact ⟨fun _ => rfl, .inr ⟨available, builtin⟩⟩
  · exact (not_succeeds_refuse ran).elim

/-- A check adds at most the described names to the local variables. -/
def Adds {α : Type} (names : String → Prop) (x : Check α) : Prop :=
  ∀ c a d, Succeeds x c a d → ∀ y, d.locals.contains y = true →
    c.locals.contains y = true ∨ names y

variable {α β : Type} {names : String → Prop}

theorem adds_pure (a : α) : Adds names (pure a) := by
  rintro c _ d ⟨⟩ y known
  exact .inl known

theorem Adds.bind {x : Check α} {f : α → Check β} (first : Adds names x)
    (second : ∀ a, Adds names (f a)) : Adds names (x >>= f) := by
  intro c b d ran y known
  obtain ⟨a, middle, firstRan, secondRan⟩ := ran.bind
  rcases second a _ _ _ secondRan y known with known | named
  · exact first _ _ _ firstRan y known
  · exact .inr named

theorem adds_readVariable (span : Span) (name : String) : Adds names (readVariable span name) := by
  rintro c ⟨⟩ d ran y known
  rw [(succeeds_readVariable ran).1 y] at known
  exact .inl known

theorem adds_assign {span : Span} {name : String} (named : names name) :
    Adds names (assign span name) := by
  rintro c ⟨⟩ d ran y known
  obtain ⟨-, rfl⟩ := succeeds_assign ran
  rw [Dictionary.contains_insertNew, Bool.or_eq_true, beq_iff_eq] at known
  rcases known with rfl | known
  · exact .inr named
  · exact .inl known

theorem adds_assignItem (span : Span) (name : String) :
    Adds names (Check.assignItem span name) := by
  rintro c ⟨⟩ d ran y known
  obtain ⟨-, -, rfl⟩ := succeeds_assignItem ran
  exact .inl known

theorem adds_literalPattern (e : Rule) (insensitive : Bool) :
    Adds names (literalPattern e insensitive) := by
  rintro c ⟨⟩ d ran y known
  rw [(succeeds_literalPattern ran).1] at known
  exact .inl known

theorem adds_argumentPatterns (body : Function.Body) (args : List Rule) :
    Adds names (argumentPatterns body args) := by
  rintro c ⟨⟩ d ran y known
  rw [(succeeds_argumentPatterns ran).1] at known
  exact .inl known

theorem Adds.operand {e d : Rule} {x : Check α} (adds : Adds (Assigns d) x)
    (member : d ∈ e.operands := by simp [Expr.operands]) : Adds (Assigns e) x := by
  intro c a d ran y known
  rcases adds c a d ran y known with known | assigned
  · exact .inl known
  · exact .inr (.operand member assigned)

end Check

open Check

mutual

/-- Visiting an expression adds at most the variables that it assigns. -/
theorem adds_visit : ∀ e : Rule, Adds (Assigns e) (visit e)
  | .literal _ _ => adds_pure ()
  | .var span name => adds_readVariable span name
  | .list _ items => adds_visitAll items fun _ member => member
  | .unary _ _ operand => (adds_visit operand).operand
  | .arith _ _ left right => .bind (adds_visit left).operand
      fun _ => (adds_visit right).operand
  | .compare _ _ left right => .bind (adds_visit left).operand
      fun _ => (adds_visit right).operand
  | .logic _ _ left right => .bind (adds_visit left).operand
      fun _ => (adds_visit right).operand
  | .keyword _ op left right => by
      refine .bind (adds_visit left).operand fun _ =>
        .bind (adds_visit right).operand fun _ => ?_
      cases Function.patternCase? op with
      | none => exact adds_pure ()
      | some insensitive => exact adds_literalPattern right insensitive
  | .conditional _ condition yes no =>
      .bind (adds_visit condition).operand fun _ =>
        .bind (adds_visit yes).operand fun _ =>
          adds_visitOption no fun e member => by
            simp [Expr.operands, Option.mem_def.mp member]
  | .call span f args => by
      intro c a d ran
      rcases succeeds_call ran with ⟨body, -, -, ran⟩ | ⟨found, ran⟩
      · have adds : Adds (Assigns (.call span f args))
            (visitAll args >>= fun _ => argumentPatterns body args) :=
          .bind (adds_visitAll args fun _ member => member) fun _ =>
            adds_argumentPatterns body args
        exact adds c a d ran
      · exact adds_visitSetter args found c a d ran
  | .index _ base position => .bind (adds_visit base).operand
      fun _ => (adds_visit position).operand
  | .assign _ _ value => .bind (adds_visit value).operand
      fun _ => adds_assign .assign
  | .indexAssign span name position value =>
      .bind (adds_assignItem span name) fun _ =>
        .bind (adds_visitOption position fun e member => by
          simp [Expr.operands, Option.mem_def.mp member]) fun _ =>
            (adds_visit value).operand
  | .sequence _ statements => adds_visitAll statements fun _ member => member

theorem adds_visitAll {e : Rule} : ∀ es : List Rule, (∀ d ∈ es, d ∈ e.operands) →
    Adds (Assigns e) (visitAll es)
  | [], _ => adds_pure ()
  | d :: ds, operands =>
      .bind ((adds_visit d).operand (operands d List.mem_cons_self)) fun _ =>
        adds_visitAll ds fun _ member => operands _ (List.mem_cons_of_mem _ member)

theorem adds_visitOption {e : Rule} : ∀ d : Option Rule, (∀ c ∈ d, c ∈ e.operands) →
    Adds (Assigns e) (visitOption d)
  | none, _ => adds_pure ()
  | some d, operand => (adds_visit d).operand (operand d rfl)

theorem adds_visitSetter {span : Span} {f : String} : ∀ args : List Rule,
    Function.find f args.length = .ok .setter →
      Adds (Assigns (.call span f args)) (visitSetter args)
  | [target, value], found => by
      intro c a d ran y known
      obtain ⟨name, _, nameRan, ran⟩ := ran.bind
      obtain ⟨rfl, text, literal, rfl⟩ := succeeds_setterName nameRan
      exact Adds.bind (adds_visit value).operand
        (fun _ => adds_assign (.setter found literal)) _ _ _ ran y known
  | _ :: _ :: _ :: _, found => absurd (Function.eq_two_of_setter found) (by simp)
  | [_], found => absurd (Function.eq_two_of_setter found) (by simp)
  | [], found => absurd (Function.eq_two_of_setter found) (by simp)

end

/-! ## Known variables are bound -/

open Eval

variable {host : Host} {excused : String → Prop}

/-- Every variable that the check has seen assigned is bound, or there is an excuse. -/
def Known (excused : String → Prop) (c : CheckState) (s : State) : Prop :=
  ∀ x, c.locals.contains x = true → s.locals.find? x ≠ none ∨ excused x

/-- A finding that a variable is not there is about an unbound variable with an excuse. -/
def Excused (excused : String → Prop) (f : Finding) (s : State) : Prop :=
  ∀ x, f.problem = .unrecognisedVariable x ∨ f.problem = .disabledVariable x →
    s.locals.find? x = none ∧ excused x

/-- The variables that are assigned in what an evaluation passes over are excused. -/
def Covered (host : Host) (excused : String → Prop) (e : Rule) (s : State) : Prop :=
  ∀ part x, PassesOver host e s part → Assigns part x → excused x

theorem Known.congr {c d : CheckState} {s t : State} (known : Known excused c s)
    (same : ∀ x, d.locals.contains x = c.locals.contains x) (locals : t.locals = s.locals) :
    Known excused d t := by
  intro x seen
  rw [same] at seen
  rw [locals]
  exact known x seen

/-- Binding a variable keeps the others bound. -/
theorem Known.insert {c : CheckState} {s t : State} {x : String} {v : Value}
    (known : Known excused c s) (locals : t.locals = s.locals.insert x v) :
    Known excused c t := by
  intro y seen
  rw [locals, Dictionary.find?_insert]
  by_cases same : y = x
  · simp [same]
  · rw [if_neg same]
    exact known y seen

/-- The check goes through an assignment, and the evaluation binds the variable. -/
theorem Known.assign {c d : CheckState} {s t : State} {span : Span} {x : String} {v : Value}
    (known : Known excused c s) (ran : Succeeds (Check.assign span x) c () d)
    (locals : t.locals = s.locals.insert x v) : Known excused d t := by
  obtain ⟨-, rfl⟩ := succeeds_assign ran
  intro y seen
  rw [Dictionary.contains_insertNew, Bool.or_eq_true, beq_iff_eq] at seen
  rcases seen with rfl | seen
  · left
    rw [locals, Dictionary.find?_insert]
    simp
  · exact known.insert locals y seen

/-- The check goes through a part that the evaluation passes over. -/
theorem Known.skip {c d : CheckState} {s : State} {part : Rule} (known : Known excused c s)
    (ran : Succeeds (visit part) c () d) (excuse : ∀ x, Assigns part x → excused x) :
    Known excused d s := by
  intro x seen
  rcases adds_visit part _ _ _ ran x seen with seen | assigned
  · exact known x seen
  · exact .inr (excuse x assigned)

theorem excused_of_isOfValues {p : Problem} {span : Span} {s : State}
    (ofValues : p.isOfValues) : Excused excused ⟨p, span⟩ s := by
  rintro x (rfl | rfl) <;> cases ofValues

/-- A known variable that is unbound has an excuse. -/
theorem Known.excused_of_unbound {c : CheckState} {s : State} {name : String}
    (known : Known excused c s) (seen : c.locals.contains name = true) (unbound : s.locals.find? name = none) {p : Problem}
    (about : p = .unrecognisedVariable name ∨ p = .disabledVariable name) (span : Span) :
    Excused excused ⟨p, span⟩ s := by
  have excuse := (known name seen).resolve_left (not_not_intro unbound)
  rintro x (same | same)
  · dsimp only at same
    subst same
    rcases about with about | about
    · cases about
      exact ⟨unbound, excuse⟩
    · cases about
  · dsimp only at same
    subst same
    rcases about with about | about
    · cases about
    · cases about
      exact ⟨unbound, excuse⟩

theorem Covered.operand {e d : Rule} {s t : State} (covered : Covered host excused e s)
    (operand : Operand host e s d t) : Covered host excused d t :=
  fun part x passes assigned => covered part x (.inside operand passes) assigned

theorem Covered.skips {e part : Rule} {s : State} (covered : Covered host excused e s)
    (skips : Skips host e s part) (x : String) (assigned : Assigns part x) : excused x :=
  covered part x (.here skips) assigned

/-- The evaluation of an expression that is checked between two states keeps the known
variables bound, and what it finds missing is excused. -/
def Defined (host : Host) (e : Rule) : Prop :=
  ∀ {excused : String → Prop} {c d : CheckState} {s : State}, Succeeds (visit e) c () d →
    Known excused c s → Covered host excused e s →
      Ends (eval host e) s (fun _ t => Known excused d t) (Excused excused)

/-- Counting a condition keeps the known variables bound. -/
theorem ends_count_known {c : CheckState} {s : State} (known : Known excused c s) :
    Ends count s (fun _ t => Known excused c t) (Excused excused) :=
  ends_count.mono (fun _ _ _ locals => known.congr (fun _ => rfl) locals)
    fun _ _ impossible => impossible

theorem defined_var (span : Span) (name : String) : Defined host (.var span name) := by
  intro excused c d s ran known covered
  obtain ⟨same, seen⟩ := succeeds_readVariable ran
  apply ends_readVariable
  · intro v t locals
    exact known.congr same locals
  · intro unbound withdrawn
    rcases seen with seen | ⟨available, -⟩
    · exact known.excused_of_unbound seen unbound (.inr rfl) span
    · rw [withdrawn] at available
      cases available
  · intro unbound unknown
    rcases seen with seen | ⟨-, provided⟩
    · exact known.excused_of_unbound seen unbound (.inl rfl) span
    · rw [unknown] at provided
      cases provided

/-- The check of the pattern of a keyword operation leaves the local variables alone. -/
theorem locals_pattern {op : KeywordOp} {pattern : Rule} {c d : CheckState}
    (ran : Succeeds (match Function.patternCase? op with
      | some insensitive => literalPattern pattern insensitive
      | none => pure ()) c () d) : d.locals = c.locals := by
  split at ran
  · exact (succeeds_literalPattern ran).1
  · cases ran
    rfl

/-- Two expressions evaluated one after the other. -/
theorem ends_both {l r : Rule} (left : Defined host l) (right : Defined host r)
    {c m d : CheckState} {s : State} {α : Type} {f : Value → Value → Eval α}
    (leftRan : Succeeds (visit l) c () m) (rightRan : Succeeds (visit r) m () d)
    (known : Known excused c s)
    (covered : ∀ e t, Turn host [l, r] s e t → Covered host excused e t)
    {post : α → State → Prop}
    (rest : ∀ a b t, Known excused d t → Ends (f a b) t post (Excused excused)) :
    Ends (do let a ← eval host l; let b ← eval host r; f a b) s post (Excused excused) := by
  apply (left leftRan known (covered _ _ .first)).bind
  intro a t leftEnded known
  apply (right rightRan known (covered _ _ (.later leftEnded .first))).bind
  intro b u _ known
  exact rest a b u known

theorem defined_logic {l r : Rule} (left : Defined host l) (right : Defined host r)
    (span : Span) (op : LogicOp) : Defined host (.logic span op l r) := by
  intro excused c d s ran known covered
  obtain ⟨_, _, leftRan, rightRan⟩ := ran.bind
  apply (ends_count_known known).bind
  intro _ t counted known
  apply (left leftRan known (covered.operand (.left counted))).bind
  intro a u leftEnded known
  cases decided : op.decided? a with
  | some b =>
      exact known.skip rightRan (covered.skips (.right counted leftEnded decided))
  | none =>
      apply (right rightRan known (covered.operand (.right counted leftEnded decided))).bind
      intro b v _ known
      exact known

theorem defined_conditional {e y : Rule} {n : Option Rule} (condition : Defined host e)
    (yes : Defined host y) (no : ∀ b ∈ n, Defined host b) (span : Span) :
    Defined host (.conditional span e y n) := by
  intro excused c d s ran known covered
  obtain ⟨_, c₁, conditionRan, ran⟩ := ran.bind
  obtain ⟨_, c₂, yesRan, noRan⟩ := ran.bind
  apply (ends_count_known known).bind
  intro _ t counted known
  apply (condition conditionRan known (covered.operand (.condition counted))).bind
  intro v u conditionEnded known
  have skipNo {z : State} (known : Known excused c₂ z)
      (skips : ∀ b, n = some b → Skips host (.conditional span e y n) s b) :
      Known excused d z := by
    cases n with
    | none =>
        cases noRan
        exact known
    | some b => exact known.skip noRan (covered.skips (skips b rfl))
  by_cases undefined : v.isUndefined
  · rw [if_pos undefined]
    have fails : v.toBool = false := by
      cases v <;> first | rfl | cases undefined
    refine skipNo (known.skip yesRan (covered.skips (.yes counted conditionEnded fails))) ?_
    rintro b rfl
    exact .undefined counted conditionEnded undefined
  rw [if_neg undefined]
  by_cases holds : v.toBool
  · rw [if_pos holds]
    apply (yes yesRan known (covered.operand (.yes counted conditionEnded holds))).mono
    · intro w z branch known
      apply skipNo known
      rintro b rfl
      exact .no counted conditionEnded holds branch
    · exact fun _ _ excused => excused
  · rw [if_neg holds]
    have fails := Bool.eq_false_iff.mpr holds
    have known := known.skip yesRan (covered.skips (.yes counted conditionEnded fails))
    cases n with
    | none =>
        cases noRan
        exact known
    | some b =>
        exact no b rfl noRan known
          (covered.operand (.no counted conditionEnded (Bool.eq_false_iff.mpr undefined) fails))

theorem defined_indexAssign {position : Option Rule} {value : Rule}
    (positionDefined : ∀ p ∈ position, Defined host p) (valueDefined : Defined host value)
    (span : Span) (name : String) : Defined host (.indexAssign span name position value) := by
  intro excused c d s ran known covered
  obtain ⟨_, _, ran, parts⟩ := ran.bind
  obtain ⟨isLocal, seen, rfl⟩ := succeeds_assignItem ran
  obtain ⟨_, m, positionRan, valueRan⟩ := parts.bind
  have assigns {index : Option (Span × Value)} {current v : Value} {t : State}
      (known : Known excused d t) :
      Ends (Eval.assignItem span name current index v) t (fun _ u => Known excused d u)
        (Excused excused) :=
    ends_assignItem (fun _ => known) (fun _ _ _ locals => known.insert locals)
      fun _ _ => excused_of_isOfValues
  rw [eval_assignItem isLocal]
  unfold Ends
  rw [run_bind, run_findLocal]
  change Ends _ s _ _
  cases bound : s.locals.find? name with
  | none => exact known.excused_of_unbound seen bound (.inl rfl) span
  | some current =>
      cases position with
      | none =>
          cases positionRan
          apply (valueDefined valueRan known
            (covered.operand (.indexAssign isLocal bound .first))).bind
          intro v t _ known
          exact assigns known
      | some p =>
          have positionEnds : Ends (evalIndex host (some p)) s
              (fun _ t => Known excused m t ∧ ∃ v, (eval host p).run.run s = (.ok v, t))
              (Excused excused) := by
            apply (positionDefined p rfl positionRan known
              (covered.operand (.indexAssign isLocal bound .first))).bind
            intro v t ended known
            exact ⟨known, v, ended⟩
          apply positionEnds.bind
          rintro index t - ⟨known, v, ended⟩
          apply (valueDefined valueRan known
            (covered.operand (.indexAssign isLocal bound (.later ended .first)))).bind
          intro w u _ known
          exact assigns known

mutual

/-- Every evaluation keeps the known variables bound. -/
theorem defined_eval (host : Host) : ∀ e : Rule, Defined host e
  | .literal _ _ => by
      intro ran known covered
      cases ran
      exact known
  | .var span name => defined_var span name
  | .list _ items => by
      intro ran known covered
      apply (defined_evalAll host items ran known fun e t turn =>
        covered.operand (.list turn)).bind
      intro _ t _ known
      exact known
  | .unary _ op operand => by
      intro ran known covered
      apply (defined_eval host operand ran known (covered.operand .unary)).bind
      intro v t _ known
      exact ends_require (fun _ _ => known) fun _ failed =>
        excused_of_isOfValues (UnaryOp.isOfValues_of_apply failed)
  | .arith _ op left right => by
      intro ran known covered
      obtain ⟨_, _, leftRan, rightRan⟩ := ran.bind
      apply ends_both (defined_eval host left) (defined_eval host right) leftRan rightRan known
        fun e t turn => covered.operand (.arith turn)
      intro a b t known
      exact ends_require (fun _ _ => known) fun _ failed =>
        excused_of_isOfValues (ArithOp.isOfValues_of_apply failed)
  | .compare _ op left right => by
      intro ran known covered
      obtain ⟨_, _, leftRan, rightRan⟩ := ran.bind
      apply (ends_count_known known).bind
      intro _ t counted known
      apply ends_both (defined_eval host left) (defined_eval host right) leftRan rightRan known
        fun e u turn => covered.operand (.compare counted turn)
      intro a b u known
      exact known
  | .logic span op left right =>
      defined_logic (defined_eval host left) (defined_eval host right) span op
  | .keyword span op left right => by
      intro ran known covered
      obtain ⟨_, _, leftRan, ran⟩ := ran.bind
      obtain ⟨_, m, rightRan, ran⟩ := ran.bind
      apply (ends_count_known known).bind
      intro _ t counted known
      apply ends_both (defined_eval host left) (defined_eval host right) leftRan rightRan known
        fun e u turn => covered.operand (.keyword counted turn)
      intro a b u known
      apply ends_applyKeyword
      · intro v w locals
        exact known.congr (fun x => by rw [locals_pattern ran]) locals
      · intro p refused
        obtain ⟨_, _, -, -, rfl⟩ := Function.refusal_of_applyKeyword refused
        rintro x (same | same) <;> cases same
  | .conditional span condition yes no =>
      defined_conditional (defined_eval host condition) (defined_eval host yes)
        (fun b member => defined_branch host no b member) span
  | .call span f args => by
      intro ran known covered
      rcases succeeds_call ran with ⟨body, found, ordinary, ran⟩ | ⟨found, ran⟩
      · obtain ⟨_, m, argsRan, ran⟩ := ran.bind
        rw [eval_call found ordinary]
        apply (ends_count_known known).bind
        intro _ t counted known
        apply (defined_evalAll host args argsRan known fun e u turn =>
          covered.operand (.argument counted found ordinary turn)).bind
        intro values u _ known
        apply ends_apply
        · intro v w locals
          exact known.congr (fun x => by rw [(succeeds_argumentPatterns ran).1]) locals
        · intro refusal refused
          rcases Function.refusal_of_apply found refused with ofValues | ⟨e, -, -, -, same⟩
          · exact excused_of_isOfValues ofValues
          · rw [same]
            rintro x (same | same) <;> cases same
      · exact defined_setter host args found ran known covered
  | .index span base position => by
      intro ran known covered
      obtain ⟨_, _, baseRan, positionRan⟩ := ran.bind
      apply ends_both (defined_eval host base) (defined_eval host position) baseRan positionRan known
        fun e t turn => covered.operand (.index turn)
      intro v i t known
      split
      · exact known
      · split
        · exact ends_require (fun _ _ => known) fun _ failed =>
            excused_of_isOfValues (isOfValues_of_itemAt failed)
        · exact excused_of_isOfValues rfl
  | .assign span name value => by
      intro ran known covered
      obtain ⟨_, _, valueRan, ran⟩ := ran.bind
      obtain ⟨isLocal, -⟩ := succeeds_assign ran
      rw [eval_assign isLocal]
      apply (defined_eval host value valueRan known (covered.operand (.assign isLocal))).bind
      intro v t _ known
      exact known.assign ran rfl
  | .indexAssign span name position value =>
      defined_indexAssign (fun p member => defined_branch host position p member)
        (defined_eval host value) span name
  | .sequence _ statements => by
      intro ran known covered
      exact defined_evalSequence host .null statements ran known fun e t turn =>
        covered.operand (.sequence turn)

theorem defined_evalAll (host : Host) : ∀ (es : List Rule) {excused : String → Prop}
    {c d : CheckState} {s : State}, Succeeds (visitAll es) c () d → Known excused c s →
      (∀ e t, Turn host es s e t → Covered host excused e t) →
        Ends (evalAll host es) s (fun _ t => Known excused d t) (Excused excused)
  | [], _, _, _, _, ran, known, _ => by
      cases ran
      exact known
  | e :: es, _, _, _, _, ran, known, covered => by
      obtain ⟨_, _, firstRan, moreRan⟩ := ran.bind
      apply (defined_eval host e firstRan known (covered _ _ .first)).bind
      intro v t firstEnded known
      apply (defined_evalAll host es moreRan known fun d u turn =>
        covered d u (.later firstEnded turn)).bind
      intro vs u _ known
      exact known

theorem defined_evalSequence (host : Host) : ∀ (last : Value) (es : List Rule)
    {excused : String → Prop} {c d : CheckState} {s : State}, Succeeds (visitAll es) c () d →
      Known excused c s → (∀ e t, Turn host es s e t → Covered host excused e t) →
        Ends (evalSequence host last es) s (fun _ t => Known excused d t) (Excused excused)
  | _, [], _, _, _, _, ran, known, _ => by
      cases ran
      exact known
  | _, e :: es, _, _, _, _, ran, known, covered => by
      obtain ⟨_, _, firstRan, moreRan⟩ := ran.bind
      apply (defined_eval host e firstRan known (covered _ _ .first)).bind
      intro v t firstEnded known
      exact defined_evalSequence host v es moreRan known fun d u turn =>
        covered d u (.later firstEnded turn)

theorem defined_setter (host : Host) {span : Span} {f : String} : ∀ (args : List Rule)
    {excused : String → Prop} {c d : CheckState} {s : State},
      Function.find f args.length = .ok .setter → Succeeds (visitSetter args) c () d →
        Known excused c s → Covered host excused (.call span f args) s →
          Ends (eval host (.call span f args)) s (fun _ t => Known excused d t)
            (Excused excused)
  | [target, value], _, _, _, _, found, ran, known, covered => by
      obtain ⟨name, _, nameRan, ran⟩ := ran.bind
      obtain ⟨rfl, text, literal, rfl⟩ := succeeds_setterName nameRan
      obtain ⟨_, m, valueRan, ran⟩ := ran.bind
      obtain ⟨isLocal, -⟩ := succeeds_assign ran
      rw [eval_setter found literal isLocal]
      apply (ends_count_known known).bind
      intro _ t counted known
      apply (defined_eval host value valueRan known
        (covered.operand (.setter counted found literal isLocal))).bind
      intro v u _ known
      exact known.assign ran rfl
  | _ :: _ :: _ :: _, _, _, _, _, found, _, _, _ =>
      absurd (Function.eq_two_of_setter found) (by simp)
  | [_], _, _, _, _, found, _, _, _ => absurd (Function.eq_two_of_setter found) (by simp)
  | [], _, _, _, _, found, _, _, _ => absurd (Function.eq_two_of_setter found) (by simp)

theorem defined_branch (host : Host) : ∀ (e : Option Rule), ∀ d ∈ e, Defined host d
  | none, _, member => by cases member
  | some e, _, member => by
      cases member
      exact defined_eval host e

end

/-! ## Checked rules -/

/-- Where the evaluation of a checked rule fails because a variable is not there, the
variable is unbound, and the evaluation has passed over a part that assigns it. -/
theorem evaluate_missing {source : Source} {warnings : List Warning}
    (accepted : source.check = .ok warnings) :
    ∃ rule, source.parse = .ok rule ∧
      ∀ (host : Host) (s t : State) (f : Finding) (x : String),
        (evaluate host rule).run.run s = (.error (.finding f), t) →
          f.problem = .unrecognisedVariable x ∨ f.problem = .disabledVariable x →
            t.locals.find? x = none ∧
              ∃ part, PassesOver host rule { s with locals := .empty } part ∧
                Assigns part x := by
  obtain ⟨rule, parsed, checked⟩ := exists_of_bind_eq_ok accepted
  obtain ⟨⟨⟨⟩, c⟩, visited, -⟩ := exists_of_bind_eq_ok checked
  refine ⟨rule, parsed, ?_⟩
  intro host s t f x ran about
  let excused (y : String) : Prop :=
    ∃ part, PassesOver host rule { s with locals := .empty } part ∧ Assigns part y
  have known : Known excused Check.start { s with locals := .empty } := by
    intro y seen
    cases seen
  have covered : Covered host excused rule { s with locals := .empty } :=
    fun part y passes assigned => ⟨part, passes, assigned⟩
  have ends := defined_eval host rule visited known covered
  exact (ends_iff.mp ends).2 f t ran x about

/-- A rule that assigns a variable in a branch and reads it after that. -/
def branchAssigns : Source :=
  ⟨"branch", "if false then x := 1 end; x; true"⟩

theorem isSome_check_branchAssigns : branchAssigns.check.toOption.isSome = true := by
  decide +kernel

/-- Whether the evaluation of a text on an empty action fails because a variable is not
there. -/
def missesVariable (source : Source) (x : String) : Bool :=
  match source.parse with
  | .error _ => false
  | .ok rule =>
      match ((evaluate Host.none rule).run.run default).1 with
      | .error (.finding f) => f.problem == .unrecognisedVariable x
      | _ => false

theorem exists_of_missesVariable {source : Source} {x : String}
    (misses : missesVariable source x = true) :
    ∃ rule f t, source.parse = .ok rule ∧
      (evaluate Host.none rule).run.run default = (.error (.finding f), t) ∧
        f.problem = .unrecognisedVariable x := by
  unfold missesVariable at misses
  split at misses
  · cases misses
  · rename_i rule parsed
    rcases ran : (evaluate Host.none rule).run.run default with ⟨outcome, t⟩
    rw [ran] at misses
    dsimp only at misses
    split at misses
    · rename_i f
      exact ⟨rule, f, t, parsed, ran, beq_iff_eq.mp misses⟩
    · cases misses

/-- The check accepts the rule, and its evaluation fails because the variable is unbound. -/
theorem branchAssigns_unrecognised :
    (∃ warnings, branchAssigns.check = .ok warnings) ∧
      ∃ rule f t, branchAssigns.parse = .ok rule ∧
        (evaluate Host.none rule).run.run default = (.error (.finding f), t) ∧
          f.problem = .unrecognisedVariable "x" := by
  constructor
  · exact exists_ok_of_isSome isSome_check_branchAssigns
  · exact exists_of_missesVariable (by decide +kernel)

/-- There the evaluation has passed over a part that assigns the variable. -/
theorem evaluate_missing_branchAssigns :
    ∃ rule part, branchAssigns.parse = .ok rule ∧
      PassesOver Host.none rule { (default : State) with locals := .empty } part ∧
        Assigns part "x" := by
  obtain ⟨warnings, checked⟩ := exists_ok_of_isSome isSome_check_branchAssigns
  obtain ⟨rule, parsed, missing⟩ := evaluate_missing checked
  obtain ⟨other, f, t, otherParsed, ran, about⟩ :=
    exists_of_missesVariable (by decide +kernel : missesVariable branchAssigns "x" = true)
  cases parsed.symm.trans otherParsed
  obtain ⟨-, part, passes, assigned⟩ := missing _ _ t f "x" ran (.inl about)
  exact ⟨rule, part, parsed, passes, assigned⟩

end EditGuard.Rule
