import EditGuard.Proofs.Pattern.Cache
import EditGuard.Rule.Check

/-!
# What a successful check says about a rule

The check visits an expression with a state.  That it succeeds says something about the
expression alone: calls fit their functions, assignments are to local variables, and all
literal patterns can be read.
-/

namespace EditGuard

/-! ## The table of functions -/

namespace Function

theorem find_eq_ok {name : String} {count : Nat} {body : Body}
    (found : find name count = .ok body) :
    ∃ f, (name, f) ∈ table ∧ f.least ≤ count ∧ (∀ most ∈ f.most, count ≤ most) ∧
      f.body count = body := by
  unfold find at found
  cases looked : table.lookup name with
  | none =>
      rw [looked] at found
      cases found
  | some f =>
      obtain ⟨before, after, split, -⟩ := List.lookup_eq_some_iff.mp looked
      have member : (name, f) ∈ table := by
        rw [split]
        exact List.mem_append_right _ List.mem_cons_self
      simp only [looked] at found
      split at found
      · cases found
      split at found
      · cases found
      rename_i enough
      refine ⟨f, member, Nat.not_lt.mp enough, ?_⟩
      split at found
      · rename_i unbounded
        rw [unbounded]
        refine ⟨?_, Except.ok.inj found⟩
        rintro _ ⟨⟩
      · rename_i most bounded
        split at found
        · cases found
        · rename_i few
          rw [bounded]
          refine ⟨?_, Except.ok.inj found⟩
          rintro _ ⟨⟩
          exact Nat.not_lt.mp few

theorem numbers_of_setter : ∀ entry ∈ table, ∀ count, entry.2.body count = .setter →
    entry.2.least = 2 ∧ entry.2.most = some 2 := by
  simp only [table, List.forall_mem_cons, ofText, ofValue, total, reduceCtorEq, false_implies,
    implies_true, true_and, and_true, and_self, List.not_mem_nil]
  intro count same
  split at same <;> cases same

/-- Setters take two arguments. -/
theorem eq_two_of_setter {name : String} {count : Nat}
    (found : find name count = .ok .setter) : count = 2 := by
  obtain ⟨f, member, enough, few, isSetter⟩ := find_eq_ok found
  obtain ⟨least, most⟩ := numbers_of_setter _ member count isSetter
  dsimp only at least most
  rw [least] at enough
  exact Nat.le_antisymm (few 2 most) enough

theorem eq_of_checked : ∀ entry ∈ table, ∀ count f, entry.2.body count = .checked f →
    f = addressInRanges := by
  simp only [table, List.forall_mem_cons, ofText, ofValue, total, reduceCtorEq, false_implies,
    implies_true, true_and, and_true, List.not_mem_nil, Body.checked.injEq, forall_eq']
  intro count f same
  split at same <;> cases same

theorem place_lt_least : ∀ entry ∈ table, ∀ count i f, entry.2.body count = .withPattern i f →
    i < entry.2.least := by
  simp only [table, List.forall_mem_cons, ofText, ofValue, total, reduceCtorEq, false_implies,
    implies_true, true_and, and_true, List.not_mem_nil, Body.withPattern.injEq, and_imp]
  refine ⟨?_, ?_, ?_⟩
  · intro count i f same
    split at same <;> cases same
    decide
  · rintro - i f rfl -
    decide
  · rintro - i f rfl -
    decide

end Function

namespace Rule

/-- The expressions directly below the root, in the order of the text. -/
def Expr.operands {α : Type} : Expr α → List (Expr α)
  | .literal _ _ | .var _ _ => []
  | .list _ items => items
  | .unary _ _ operand => [operand]
  | .arith _ _ left right | .compare _ _ left right | .logic _ _ left right => [left, right]
  | .keyword _ _ left right => [left, right]
  | .conditional _ condition yes no => condition :: yes :: no.toList
  | .call _ _ args => args
  | .index _ base position => [base, position]
  | .assign _ _ value => [value]
  | .indexAssign _ _ position value => position.toList ++ [value]
  | .sequence _ statements => statements

/-- An expression or a part of it matches by a pattern, which is the value of a part of it;
case may or may not matter. -/
inductive HasPattern : Rule → Rule → Bool → Prop
  | keyword {span op left right insensitive}
      (matching : Function.patternCase? op = some insensitive) :
      HasPattern (.keyword span op left right) right insensitive
  | argument {span f args body i pattern} (found : Function.find f args.length = .ok body)
      (place : body.pattern? = some i) (given : args[i]? = some pattern) :
      HasPattern (.call span f args) pattern false
  | operand {e d pattern insensitive} (member : d ∈ e.operands)
      (inside : HasPattern d pattern insensitive) : HasPattern e pattern insensitive

/-- A pattern can be read if it is a literal text. -/
def Readable (pattern : Rule) (insensitive : Bool) : Prop :=
  ∀ text, pattern.literalText? = some text →
    ∃ p, Pattern.parse insensitive text = .ok p

/-- An expression whose calls fit their functions, whose assignments are to local variables
and whose literal patterns can be read. -/
inductive Fits : Rule → Prop
  | literal {span v} : Fits (.literal span v)
  | var {span x} : Fits (.var span x)
  | list {span es} (items : ∀ e ∈ es, Fits e) : Fits (.list span es)
  | unary {span op e} (operand : Fits e) : Fits (.unary span op e)
  | arith {span op l r} (left : Fits l) (right : Fits r) : Fits (.arith span op l r)
  | compare {span op l r} (left : Fits l) (right : Fits r) : Fits (.compare span op l r)
  | logic {span op l r} (left : Fits l) (right : Fits r) : Fits (.logic span op l r)
  | keyword {span op l r} (left : Fits l) (right : Fits r)
      (pattern : ∀ insensitive, Function.patternCase? op = some insensitive →
        Readable r insensitive) : Fits (.keyword span op l r)
  | conditional {span c y n} (condition : Fits c) (yes : Fits y) (no : ∀ e ∈ n, Fits e) :
      Fits (.conditional span c y n)
  | call {span f args body} (found : Function.find f args.length = .ok body)
      (ordinary : body ≠ .setter) (given : ∀ e ∈ args, Fits e)
      (pattern : ∀ i e, body.pattern? = some i → args[i]? = some e → Readable e false) :
      Fits (.call span f args)
  | setter {span f target value text} (found : Function.find f 2 = .ok .setter)
      (literal : target.literalText? = some text)
      (isLocal : Variable.isBuiltin (Variable.fold text) = false) (assigned : Fits value) :
      Fits (.call span f [target, value])
  | index {span b i} (base : Fits b) (position : Fits i) : Fits (.index span b i)
  | assign {span x e} (isLocal : Variable.isBuiltin x = false) (value : Fits e) :
      Fits (.assign span x e)
  | indexAssign {span x i e} (isLocal : Variable.isBuiltin x = false)
      (position : ∀ p ∈ i, Fits p) (value : Fits e) : Fits (.indexAssign span x i e)
  | sequence {span es} (statements : ∀ e ∈ es, Fits e) : Fits (.sequence span es)

theorem Fits.operand {e d : Rule} (fits : Fits e) (member : d ∈ e.operands) : Fits d := by
  cases fits with
  | literal | var => cases member
  | list items => exact items d member
  | unary operand =>
      cases List.mem_singleton.mp member
      exact operand
  | arith left right | compare left right | logic left right | keyword left right
  | index left right =>
      rcases List.mem_cons.mp member with rfl | member
      · exact left
      · cases List.mem_singleton.mp member
        exact right
  | conditional condition yes no =>
      rcases List.mem_cons.mp member with rfl | member
      · exact condition
      rcases List.mem_cons.mp member with rfl | member
      · exact yes
      · exact no d (Option.mem_toList.mp member)
  | call found ordinary given => exact given d member
  | setter found literal isLocal assigned =>
      rcases List.mem_cons.mp member with rfl | member
      · unfold Expr.literalText? at literal
        split at literal
        · exact .literal
        · cases literal
      · cases List.mem_singleton.mp member
        exact assigned
  | assign isLocal value =>
      cases List.mem_singleton.mp member
      exact value
  | indexAssign isLocal position value =>
      rcases List.mem_append.mp member with member | member
      · exact position d (Option.mem_toList.mp member)
      · cases List.mem_singleton.mp member
        exact value
  | sequence statements => exact statements d member

/-- The patterns of an expression that fits can be read. -/
theorem HasPattern.readable {e pattern : Rule} {insensitive : Bool}
    (matching : HasPattern e pattern insensitive) (fits : Fits e) :
    Readable pattern insensitive := by
  induction matching with
  | keyword same =>
      cases fits with
      | keyword left right readable => exact readable _ same
  | argument found place given =>
      cases fits with
      | call other ordinary fit readable =>
          cases found.symm.trans other
          exact readable _ _ place given
      | setter other =>
          cases found.symm.trans other
          cases place
  | operand member inside ih => exact ih (fits.operand member)

/-! ## Running a check -/

namespace Check

variable {α β : Type} {c d : CheckState}

/-- A check succeeds and ends in a state. -/
def Succeeds (x : Check α) (c : CheckState) (a : α) (d : CheckState) : Prop :=
  x.run c = .ok (a, d)

/-- Checks one after the other succeed if both do. -/
theorem Succeeds.bind {x : Check α} {f : α → Check β} {b : β}
    (ran : Succeeds (x >>= f) c b d) :
    ∃ a middle, Succeeds x c a middle ∧ Succeeds (f a) middle b d := by
  unfold Succeeds at ran ⊢
  rw [StateT.run_bind] at ran
  cases first : x.run c with
  | error f =>
      rw [first] at ran
      cases ran
  | ok result =>
      rw [first] at ran
      exact ⟨result.1, result.2, rfl, ran⟩

theorem not_succeeds_refuse {span : Span} {p : Problem} {a : α}
    (ran : Succeeds (refuse span p) c a d) : False := by
  cases ran

/-- Reading a variable changes neither which locals there are nor the patterns. -/
theorem patterns_readVariable {span : Span} {name : String}
    (ran : Succeeds (readVariable span name) c () d) : d.patterns = c.patterns := by
  unfold readVariable at ran
  obtain ⟨_, _, got, ran⟩ := ran.bind
  cases got
  split at ran
  · cases ran
    rfl
  · split at ran
    · exact (not_succeeds_refuse ran).elim
    · split at ran
      · cases ran
        rfl
      · split at ran
        · cases ran
          rfl
        · exact (not_succeeds_refuse ran).elim

theorem succeeds_assign {span : Span} {name : String} (ran : Succeeds (assign span name) c () d) :
    Variable.isBuiltin name = false ∧
      d = { c with locals := c.locals.insertNew name ⟨span.start.index, false⟩ } := by
  unfold assign at ran
  split at ran
  · exact (not_succeeds_refuse ran).elim
  · rename_i isLocal
    cases ran
    exact ⟨Bool.eq_false_iff.mpr isLocal, rfl⟩

theorem succeeds_assignItem {span : Span} {name : String}
    (ran : Succeeds (Check.assignItem span name) c () d) :
    Variable.isBuiltin name = false ∧ c.locals.contains name = true ∧ d = c := by
  unfold Check.assignItem at ran
  split at ran
  · exact (not_succeeds_refuse ran).elim
  · rename_i isLocal
    obtain ⟨_, _, got, ran⟩ := ran.bind
    cases got
    split at ran
    · rename_i known
      cases ran
      exact ⟨Bool.eq_false_iff.mpr isLocal, known, rfl⟩
    · exact (not_succeeds_refuse ran).elim

/-- A literal pattern that was checked can be read. -/
theorem succeeds_literalPattern {e : Rule} {insensitive : Bool}
    (ran : Succeeds (literalPattern e insensitive) c () d) :
    d.locals = c.locals ∧
      (c.patterns.Sound → Readable e insensitive ∧ d.patterns.Sound) := by
  unfold literalPattern at ran
  split at ran
  · rename_i computed
    cases ran
    refine ⟨rfl, fun sound => ⟨?_, sound⟩⟩
    intro text literal
    rw [computed] at literal
    cases literal
  · rename_i text literal
    obtain ⟨_, _, got, ran⟩ := ran.bind
    cases got
    split at ran
    · exact (not_succeeds_refuse ran).elim
    · rename_i p patterns got
      have same : d.locals = c.locals ∧ d.patterns = patterns := by
        obtain ⟨_, _, put, ran⟩ := ran.bind
        cases put
        split at ran <;> cases ran <;> exact ⟨rfl, rfl⟩
      refine ⟨same.1, fun sound => ?_⟩
      obtain ⟨parsed, patternsSound⟩ := sound.get got
      rw [same.2]
      refine ⟨?_, patternsSound⟩
      intro other otherLiteral
      cases literal.symm.trans otherLiteral
      exact ⟨p, parsed⟩

theorem succeeds_argumentPatterns {body : Function.Body} {args : List Rule}
    (ran : Succeeds (argumentPatterns body args) c () d) :
    d.locals = c.locals ∧
      (c.patterns.Sound →
        (∀ i e, body.pattern? = some i → args[i]? = some e → Readable e false) ∧
          d.patterns.Sound) := by
  unfold argumentPatterns at ran
  split at ran
  · rename_i pattern found
    obtain ⟨kept, readable⟩ := succeeds_literalPattern ran
    refine ⟨kept, fun sound => ⟨?_, (readable sound).2⟩⟩
    intro i e place given
    rw [place, Option.bind_some, given] at found
    cases found
    exact (readable sound).1
  · rename_i found
    cases ran
    refine ⟨rfl, fun sound => ⟨?_, sound⟩⟩
    intro i e place given
    rw [place, Option.bind_some, given] at found
    cases found

theorem succeeds_setterName {target : Rule} {name : String}
    (ran : Succeeds (setterName target) c name d) :
    d = c ∧ ∃ text, target.literalText? = some text ∧ name = Variable.fold text := by
  unfold setterName at ran
  split at ran
  · exact (not_succeeds_refuse ran).elim
  · rename_i text literal
    cases ran
    exact ⟨rfl, text, literal, rfl⟩

/-- A call that is checked with success fits its function. -/
theorem succeeds_call {span : Span} {f : String} {args : List Rule}
    (ran : Succeeds (visit (.call span f args)) c () d) :
    (∃ body, Function.find f args.length = .ok body ∧ body ≠ .setter ∧
        Succeeds (visitAll args >>= fun _ => argumentPatterns body args) c () d) ∨
      Function.find f args.length = .ok .setter ∧ Succeeds (visitSetter args) c () d := by
  rw [visit] at ran
  cases found : Function.find f args.length with
  | error p =>
      simp only [found] at ran
      exact (not_succeeds_refuse ran).elim
  | ok body =>
      simp only [found] at ran
      cases body with
      | setter => exact .inr ⟨rfl, ran⟩
      | _ => exact .inl ⟨_, rfl, nofun, ran⟩

end Check

/-! ## Visiting an expression -/

open Check

/-- An expression fits if it is visited with success, and the patterns stay sound. -/
def Fitting (e : Rule) : Prop :=
  ∀ {c d : CheckState}, Succeeds (visit e) c () d → c.patterns.Sound →
    Fits e ∧ d.patterns.Sound

theorem fits_both {left right : Rule} (leftFitting : Fitting left)
    (rightFitting : Fitting right) {c d : CheckState}
    (ran : Succeeds (visit left >>= fun _ => visit right) c () d) (sound : c.patterns.Sound) :
    Fits left ∧ Fits right ∧ d.patterns.Sound := by
  obtain ⟨_, _, leftRan, rightRan⟩ := ran.bind
  obtain ⟨leftFits, sound⟩ := leftFitting leftRan sound
  obtain ⟨rightFits, sound⟩ := rightFitting rightRan sound
  exact ⟨leftFits, rightFits, sound⟩

mutual

/-- Every expression that is visited with success fits. -/
theorem fits_of_visit : ∀ e : Rule, Fitting e
  | .literal _ _, _, _, ran, sound => by
      cases ran
      exact ⟨.literal, sound⟩
  | .var _ _, _, _, ran, sound => by
      refine ⟨.var, ?_⟩
      rw [patterns_readVariable ran]
      exact sound
  | .list _ items, _, _, ran, sound => by
      obtain ⟨fit, sound⟩ := fits_of_visitAll items ran sound
      exact ⟨.list fit, sound⟩
  | .unary _ _ operand, _, _, ran, sound => by
      obtain ⟨fits, sound⟩ := fits_of_visit operand ran sound
      exact ⟨.unary fits, sound⟩
  | .arith _ _ left right, _, _, ran, sound => by
      obtain ⟨leftFits, rightFits, sound⟩ := fits_both (fits_of_visit left) (fits_of_visit right) ran sound
      exact ⟨.arith leftFits rightFits, sound⟩
  | .compare _ _ left right, _, _, ran, sound => by
      obtain ⟨leftFits, rightFits, sound⟩ := fits_both (fits_of_visit left) (fits_of_visit right) ran sound
      exact ⟨.compare leftFits rightFits, sound⟩
  | .logic _ _ left right, _, _, ran, sound => by
      obtain ⟨leftFits, rightFits, sound⟩ := fits_both (fits_of_visit left) (fits_of_visit right) ran sound
      exact ⟨.logic leftFits rightFits, sound⟩
  | .keyword _ op left right, _, _, ran, sound => by
      obtain ⟨_, _, leftRan, ran⟩ := ran.bind
      obtain ⟨_, _, rightRan, ran⟩ := ran.bind
      obtain ⟨leftFits, sound⟩ := fits_of_visit left leftRan sound
      obtain ⟨rightFits, sound⟩ := fits_of_visit right rightRan sound
      cases matching : Function.patternCase? op with
      | none =>
          simp only [matching] at ran
          cases ran
          refine ⟨.keyword leftFits rightFits ?_, sound⟩
          rintro insensitive other
          cases matching.symm.trans other
      | some insensitive =>
          simp only [matching] at ran
          obtain ⟨readable, sound⟩ := (succeeds_literalPattern ran).2 sound
          refine ⟨.keyword leftFits rightFits ?_, sound⟩
          intro other same
          cases matching.symm.trans same
          exact readable
  | .conditional _ condition yes no, _, _, ran, sound => by
      obtain ⟨_, _, conditionRan, ran⟩ := ran.bind
      obtain ⟨_, _, yesRan, noRan⟩ := ran.bind
      obtain ⟨conditionFits, sound⟩ := fits_of_visit condition conditionRan sound
      obtain ⟨yesFits, sound⟩ := fits_of_visit yes yesRan sound
      obtain ⟨noFits, sound⟩ := fits_of_visitOption no noRan sound
      exact ⟨.conditional conditionFits yesFits noFits, sound⟩
  | .call span f args, _, _, ran, sound => by
      rcases succeeds_call ran with ⟨body, found, ordinary, ran⟩ | ⟨found, ran⟩
      · obtain ⟨_, _, argsRan, ran⟩ := ran.bind
        obtain ⟨argsFit, sound⟩ := fits_of_visitAll args argsRan sound
        obtain ⟨readable, sound⟩ := (succeeds_argumentPatterns ran).2 sound
        exact ⟨.call found ordinary argsFit readable, sound⟩
      · exact fits_of_visitSetter args found ran sound
  | .index _ base position, _, _, ran, sound => by
      obtain ⟨baseFits, positionFits, sound⟩ := fits_both (fits_of_visit base) (fits_of_visit position) ran sound
      exact ⟨.index baseFits positionFits, sound⟩
  | .assign _ _ value, _, _, ran, sound => by
      obtain ⟨_, _, valueRan, ran⟩ := ran.bind
      obtain ⟨valueFits, sound⟩ := fits_of_visit value valueRan sound
      obtain ⟨isLocal, rfl⟩ := succeeds_assign ran
      exact ⟨.assign isLocal valueFits, sound⟩
  | .indexAssign _ _ position value, _, _, ran, sound => by
      obtain ⟨_, _, ran, parts⟩ := ran.bind
      obtain ⟨isLocal, -, rfl⟩ := succeeds_assignItem ran
      obtain ⟨_, _, positionRan, valueRan⟩ := parts.bind
      obtain ⟨positionFits, sound⟩ := fits_of_visitOption position positionRan sound
      obtain ⟨valueFits, sound⟩ := fits_of_visit value valueRan sound
      exact ⟨.indexAssign isLocal positionFits valueFits, sound⟩
  | .sequence _ statements, _, _, ran, sound => by
      obtain ⟨fit, sound⟩ := fits_of_visitAll statements ran sound
      exact ⟨.sequence fit, sound⟩

theorem fits_of_visitAll : ∀ (es : List Rule) {c d : CheckState}, Succeeds (visitAll es) c () d →
    c.patterns.Sound → (∀ e ∈ es, Fits e) ∧ d.patterns.Sound
  | [], _, _, ran, sound => by
      cases ran
      exact ⟨nofun, sound⟩
  | first :: more, _, _, ran, sound => by
      obtain ⟨_, _, firstRan, moreRan⟩ := ran.bind
      obtain ⟨firstFits, sound⟩ := fits_of_visit first firstRan sound
      obtain ⟨moreFit, sound⟩ := fits_of_visitAll more moreRan sound
      exact ⟨List.forall_mem_cons.mpr ⟨firstFits, moreFit⟩, sound⟩

theorem fits_of_visitOption : ∀ (e : Option Rule) {c d : CheckState},
    Succeeds (visitOption e) c () d → c.patterns.Sound →
      (∀ d ∈ e, Fits d) ∧ d.patterns.Sound
  | none, _, _, ran, sound => by
      cases ran
      exact ⟨nofun, sound⟩
  | some e, _, _, ran, sound => by
      obtain ⟨fits, sound⟩ := fits_of_visit e ran sound
      exact ⟨by rintro _ ⟨⟩; exact fits, sound⟩

theorem fits_of_visitSetter {span : Span} {f : String} : ∀ (args : List Rule)
    {c d : CheckState}, Function.find f args.length = .ok .setter →
      Succeeds (visitSetter args) c () d → c.patterns.Sound →
        Fits (.call span f args) ∧ d.patterns.Sound
  | [target, value], _, _, found, ran, sound => by
      obtain ⟨name, _, nameRan, ran⟩ := ran.bind
      obtain ⟨rfl, text, literal, rfl⟩ := succeeds_setterName nameRan
      obtain ⟨_, _, valueRan, ran⟩ := ran.bind
      obtain ⟨valueFits, sound⟩ := fits_of_visit value valueRan sound
      obtain ⟨isLocal, rfl⟩ := succeeds_assign ran
      exact ⟨.setter found literal isLocal valueFits, sound⟩
  | _ :: _ :: _ :: _, _, _, found, _, _ => absurd (Function.eq_two_of_setter found) (by simp)
  | [_], _, _, found, _, _ => absurd (Function.eq_two_of_setter found) (by simp)
  | [], _, _, found, _, _ => absurd (Function.eq_two_of_setter found) (by simp)

end

end Rule

end EditGuard
