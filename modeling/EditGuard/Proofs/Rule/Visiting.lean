import EditGuard.Proofs.Dictionary
import EditGuard.Proofs.Rule.Sites

/-!
# Visiting the nodes of a rule

A check goes over the tree of a rule once, and is done with the operands of a node before it is
done with the node.  Here the nodes are listed in that order, and a check that succeeds is taken
apart into the turns of the single nodes.
-/

namespace EditGuard.Rule

/-! ## The order of the nodes -/

mutual

/-- The nodes of an expression, the operands of each in the order of the text before it. -/
def visited : Rule → List Rule
  | .literal span v => [.literal span v]
  | .var span x => [.var span x]
  | .list span items => visitedAll items ++ [.list span items]
  | .unary span op operand => visited operand ++ [.unary span op operand]
  | .arith span op left right => visited left ++ visited right ++ [.arith span op left right]
  | .compare span op left right => visited left ++ visited right ++ [.compare span op left right]
  | .logic span op left right => visited left ++ visited right ++ [.logic span op left right]
  | .keyword span op left right => visited left ++ visited right ++ [.keyword span op left right]
  | .conditional span condition yes no =>
      visited condition ++ visited yes ++ visitedOption no ++ [.conditional span condition yes no]
  | .call span f args => visitedAll args ++ [.call span f args]
  | .index span base position => visited base ++ visited position ++ [.index span base position]
  | .assign span x value => visited value ++ [.assign span x value]
  | .indexAssign span x position value =>
      visitedOption position ++ visited value ++ [.indexAssign span x position value]
  | .sequence span statements => visitedAll statements ++ [.sequence span statements]

def visitedAll : List Rule → List Rule
  | [] => []
  | e :: es => visited e ++ visitedAll es

def visitedOption : Option Rule → List Rule
  | none => []
  | some e => visited e

end

theorem visitedAll_eq (es : List Rule) : visitedAll es = es.flatMap visited := by
  induction es with
  | nil => rw [visitedAll, List.flatMap_nil]
  | cons e es ih => rw [visitedAll, ih, List.flatMap_cons]

theorem visitedOption_eq (e : Option Rule) : visitedOption e = e.toList.flatMap visited := by
  cases e with
  | none => rw [visitedOption, Option.toList_none, List.flatMap_nil]
  | some e => rw [visitedOption, Option.toList_some, List.flatMap_singleton]

/-- A node comes after its operands, and nothing else comes between. -/
theorem visited_eq (e : Rule) : visited e = e.operands.flatMap visited ++ [e] := by
  cases e with
  | list | call | sequence => rw [visited, visitedAll_eq]; rfl
  | conditional => rw [visited, visitedOption_eq]; simp [Expr.operands]
  | indexAssign => rw [visited, visitedOption_eq]; simp [Expr.operands]
  | _ => simp [visited, Expr.operands]

theorem Expr.sizeOf_lt_of_mem_operands {e d : Rule} (member : d ∈ e.operands) :
    sizeOf d < sizeOf e := by
  cases e with
  | literal | var => cases member
  | list _ items =>
      have smaller : sizeOf d < sizeOf items := List.sizeOf_lt_of_mem member
      simp only [Expr.list.sizeOf_spec]
      omega
  | call _ _ args =>
      have smaller : sizeOf d < sizeOf args := List.sizeOf_lt_of_mem member
      simp only [Expr.call.sizeOf_spec]
      omega
  | sequence _ statements =>
      have smaller : sizeOf d < sizeOf statements := List.sizeOf_lt_of_mem member
      simp only [Expr.sequence.sizeOf_spec]
      omega
  | conditional _ condition yes no =>
      simp only [operands, List.mem_cons, Option.mem_toList] at member
      simp only [Expr.conditional.sizeOf_spec]
      rcases member with rfl | rfl | rfl
      · omega
      · omega
      · simp only [Option.some.sizeOf_spec]
        omega
  | indexAssign _ _ position value =>
      simp only [operands, List.mem_append, List.mem_singleton, Option.mem_toList] at member
      simp only [Expr.indexAssign.sizeOf_spec]
      rcases member with rfl | rfl
      · simp only [Option.some.sizeOf_spec]
        omega
      · omega
  | unary | assign =>
      cases List.mem_singleton.mp member
      simp only [Expr.unary.sizeOf_spec, Expr.assign.sizeOf_spec]
      omega
  | arith | compare | logic | keyword | index =>
      simp only [operands, List.mem_cons, List.not_mem_nil, or_false] at member
      simp only [Expr.arith.sizeOf_spec, Expr.compare.sizeOf_spec, Expr.logic.sizeOf_spec,
        Expr.keyword.sizeOf_spec, Expr.index.sizeOf_spec]
      rcases member with rfl | rfl
      · omega
      · omega

/-- All nodes of an expression are visited, and no others. -/
theorem mem_visited_iff {e d : Rule} : d ∈ visited e ↔ Within e d := by
  constructor
  · intro mem
    rw [visited_eq] at mem
    rcases List.mem_append.mp mem with mem | here
    · obtain ⟨operand, member, inside⟩ := List.mem_flatMap.mp mem
      have smaller := Expr.sizeOf_lt_of_mem_operands member
      exact .part member (mem_visited_iff.mp inside)
    · rw [List.mem_singleton.mp here]
      exact .root
  · intro within
    induction within with
    | @root e =>
        rw [visited_eq]
        exact List.mem_append_right _ (List.mem_singleton_self e)
    | part member _ ih =>
        rw [visited_eq]
        exact List.mem_append_left _ (List.mem_flatMap_of_mem member ih)
termination_by sizeOf e

/-! ## What the check does at a node -/

/-- The variable that a node reads. -/
def Expr.read? : Rule → Option String
  | .var _ x => some x
  | _ => none

/-- The local variable that a node assigns, with the position of its name. -/
def Expr.assigned? : Rule → Option (String × Nat)
  | .assign span x _ => some (x, span.start.index)
  | .call _ f [target, _] =>
      match Function.find f 2 with
      | .ok .setter =>
          target.literalText?.map fun text => (Variable.fold text, target.mark.start.index)
      | _ => none
  | _ => none

/-- The operand of a node that is a pattern, and whether case does not matter. -/
def Expr.pattern? : Rule → Option (Rule × Bool)
  | .keyword _ op _ right => (Function.patternCase? op).map fun insensitive => (right, insensitive)
  | .call _ f args =>
      match Function.find f args.length with
      | .ok body => (body.pattern?.bind fun i => args[i]?).map fun pattern => (pattern, false)
      | .error _ => none
  | _ => none

/-- The doubt about a node that reads a renamed variable. -/
def Expr.deprecations : Rule → List Warning
  | .var span x =>
      (Variable.replacement? x).toList.map fun name =>
        ⟨.deprecatedVariable x name, span.start.index⟩
  | _ => []

/-- The doubt about a node with a literal pattern that matches the empty text. -/
def Expr.emptyMatches (e : Rule) : List Warning :=
  match e.pattern? with
  | none => []
  | some (pattern, insensitive) =>
      match pattern.literalText? with
      | none => []
      | some text =>
          match Pattern.parse insensitive text with
          | .error _ => []
          | .ok p =>
              if p.isMatch "" then [⟨.matchesEmpty text, pattern.mark.start.index⟩] else []

/-- What is known of a variable after a node. -/
def noted (x : String) (known : Option Local) (e : Rule) : Option Local :=
  if e.read? = some x then known.map fun l => { l with used := true }
  else
    match e.assigned? with
    | none => known
    | some (y, position) => known.or (if x = y then some ⟨position, false⟩ else none)

namespace Check

/-- The state of a check in which no local variable has the name of another variable. -/
structure Proper (c : CheckState) : Prop where
  patterns : c.patterns.Sound
  locals : ∀ x, Variable.isBuiltin x = true → c.locals.find? x = none

/-- What the check does at a node when it is done with the operands. -/
structure Step (e : Rule) (c d : CheckState) : Prop where
  warnings : d.warnings = c.warnings ++ (e.deprecations ++ e.emptyMatches)
  locals : ∀ x, d.locals.find? x = noted x (c.locals.find? x) e
  known : ∀ x, e.read? = some x → Variable.isBuiltin x = false → (c.locals.find? x).isSome
  own : ∀ a ∈ e.assigned?, Variable.isBuiltin a.1 = false

/-- What the check does at one node after another. -/
inductive Steps : List Rule → CheckState → CheckState → Prop
  | nil {c} : Steps [] c c
  | cons {e es b c d} (step : Step e b c) (more : Steps es c d) : Steps (e :: es) b d

variable {b c d : CheckState}

theorem Steps.append {es fs : List Rule} (first : Steps es b c) (second : Steps fs c d) :
    Steps (es ++ fs) b d := by
  induction first with
  | nil => exact second
  | cons step _ ih => exact .cons step (ih second)

/-- A check that succeeds goes over nodes, and keeps its state proper. -/
def Takes (es : List Rule) (x : Check Unit) : Prop :=
  ∀ c d, Succeeds x c () d → Proper c → Steps es c d ∧ Proper d

theorem Takes.bind {es fs : List Rule} {x y : Check Unit} (first : Takes es x)
    (second : Takes fs y) : Takes (es ++ fs) (x >>= fun _ => y) := by
  intro b d ran proper
  obtain ⟨_, c, firstRan, secondRan⟩ := ran.bind
  obtain ⟨firstSteps, proper⟩ := first b c firstRan proper
  obtain ⟨secondSteps, proper⟩ := second c d secondRan proper
  exact ⟨firstSteps.append secondSteps, proper⟩

theorem takes_nothing : Takes [] (pure ()) := by
  rintro c _ ⟨⟩ proper
  exact ⟨.nil, proper⟩

theorem takes_one {e : Rule} {x : Check Unit}
    (step : ∀ c d, Succeeds x c () d → Proper c → Step e c d ∧ Proper d) : Takes [e] x := by
  intro c d ran proper
  obtain ⟨step, proper⟩ := step c d ran proper
  exact ⟨.cons step .nil, proper⟩

/-! ## Steps at single nodes -/

/-- A node that neither reads nor assigns a variable and gives rise to no doubt. -/
structure Quiet (e : Rule) : Prop where
  noRead : e.read? = none
  noAssignment : e.assigned? = none
  noDoubt : e.deprecations ++ e.emptyMatches = []

/-- The check does nothing at a quiet node. -/
theorem step_quiet {e : Rule} (quiet : Quiet e) : Step e c c := by
  constructor
  · rw [quiet.noDoubt, List.append_nil]
  · intro x
    simp [noted, quiet.noRead, quiet.noAssignment]
  · simp [quiet.noRead]
  · simp [quiet.noAssignment]

theorem Takes.quiet {es : List Rule} {x : Check Unit} (takes : Takes es x) {e : Rule}
    (quiet : Quiet e) : Takes (es ++ [e]) x := by
  intro c d ran proper
  obtain ⟨steps, proper⟩ := takes c d ran proper
  exact ⟨steps.append (.cons (step_quiet quiet) .nil), proper⟩

theorem emptyMatches_var (span : Span) (x : String) : Expr.emptyMatches (.var span x) = [] :=
  rfl

theorem replacement?_of_isLocal {x : String} (isLocal : Variable.isBuiltin x = false) :
    Variable.replacement? x = none := by
  rw [Variable.isBuiltin, Bool.or_eq_false_iff] at isLocal
  simpa using isLocal.2

/-- A local variable that was assigned before is read. -/
theorem step_local {span : Span} {x : String} {l : Local} (proper : Proper c)
    (found : c.locals.find? x = some l) :
    Step (.var span x) c { c with locals := c.locals.insert x { l with used := true } } ∧
      Proper { c with locals := c.locals.insert x { l with used := true } } := by
  have isLocal : Variable.isBuiltin x = false := by
    rw [Bool.eq_false_iff]
    intro builtin
    rw [proper.locals x builtin] at found
    cases found
  refine ⟨⟨?_, ?_, ?_, nofun⟩, ⟨proper.patterns, ?_⟩⟩
  · simp [Expr.deprecations, emptyMatches_var, replacement?_of_isLocal isLocal]
  · intro y
    rw [Dictionary.find?_insert, noted]
    by_cases same : y = x
    · simp [same, Expr.read?, found]
    · simp [same, Expr.read?, Ne.symm same, Expr.assigned?]
  · rintro _ ⟨⟩ _
    simp [found]
  · intro y builtin
    rw [Dictionary.find?_insert, if_neg]
    · exact proper.locals y builtin
    · rintro rfl
      rw [isLocal] at builtin
      cases builtin

/-- A variable that a host may provide is read. -/
theorem step_builtin {span : Span} {x : String} (proper : Proper c)
    (builtin : Variable.isBuiltin x = true) (locals : d.locals = c.locals)
    (warnings : d.warnings = c.warnings ++ Expr.deprecations (.var span x)) :
    Step (.var span x) c d := by
  refine ⟨?_, ?_, ?_, nofun⟩
  · rw [warnings, emptyMatches_var, List.append_nil]
  · intro y
    rw [locals, noted]
    by_cases same : y = x
    · simp [same, Expr.read?, proper.locals x builtin]
    · simp [Expr.read?, Ne.symm same, Expr.assigned?]
  · rintro _ ⟨⟩ isLocal
    rw [isLocal] at builtin
    cases builtin

theorem takes_readVariable (span : Span) (x : String) :
    Takes [.var span x] (readVariable span x) := by
  apply takes_one
  intro c d ran proper
  unfold readVariable at ran
  obtain ⟨_, _, got, ran⟩ := ran.bind
  cases got
  split at ran
  · next l found =>
      cases ran
      exact step_local proper found
  · split at ran
    · exact (not_succeeds_refuse ran).elim
    · split at ran
      · next name renamed =>
          have builtin : Variable.isBuiltin x = true := by simp [Variable.isBuiltin, renamed]
          cases ran
          refine ⟨step_builtin proper builtin rfl ?_, ⟨proper.patterns, proper.locals⟩⟩
          simp [Expr.deprecations, renamed]
      · next notRenamed =>
          split at ran
          · next builtin =>
              cases ran
              refine ⟨step_builtin proper builtin rfl ?_, proper⟩
              simp [Expr.deprecations, notRenamed]
          · exact (not_succeeds_refuse ran).elim

/-- A local variable is assigned, unless its name is that of another variable. -/
theorem takes_assign {e : Rule} {span : Span} {x : String}
    (isAssignment : e.assigned? = some (x, span.start.index)) (noRead : e.read? = none)
    (noDoubt : e.deprecations ++ e.emptyMatches = []) : Takes [e] (assign span x) := by
  apply takes_one
  intro c d ran proper
  obtain ⟨isLocal, rfl⟩ := succeeds_assign ran
  refine ⟨⟨?_, ?_, ?_, ?_⟩, ⟨proper.patterns, ?_⟩⟩
  · rw [noDoubt, List.append_nil]
  · intro y
    simp [noted, noRead, isAssignment, Dictionary.find?_insertNew]
  · simp [noRead]
  · simp [isAssignment, isLocal]
  · intro y builtin
    rw [Dictionary.find?_insertNew, proper.locals y builtin, if_neg]
    · rfl
    · rintro rfl
      rw [isLocal] at builtin
      cases builtin

theorem takes_literalPattern {e pattern : Rule} {insensitive : Bool}
    (isPattern : e.pattern? = some (pattern, insensitive)) (noRead : e.read? = none)
    (noAssignment : e.assigned? = none) (notRenamed : e.deprecations = []) :
    Takes [e] (literalPattern pattern insensitive) := by
  apply takes_one
  intro c d ran proper
  have step {d : CheckState} (locals : d.locals = c.locals)
      (warnings : d.warnings = c.warnings ++ e.emptyMatches) : Step e c d := by
    refine ⟨?_, ?_, ?_, ?_⟩
    · rw [warnings, notRenamed, List.nil_append]
    · intro x
      simp [locals, noted, noRead, noAssignment]
    · simp [noRead]
    · simp [noAssignment]
  unfold literalPattern at ran
  split at ran
  · next computed =>
      cases ran
      refine ⟨step rfl ?_, proper⟩
      simp [Expr.emptyMatches, isPattern, computed]
  · next text literal =>
      obtain ⟨_, _, got, ran⟩ := ran.bind
      cases got
      split at ran
      · exact (not_succeeds_refuse ran).elim
      · next p patterns got =>
          obtain ⟨parsed, sound⟩ := proper.patterns.get got
          obtain ⟨_, _, put, ran⟩ := ran.bind
          cases put
          split at ran
          · next matchesEmpty =>
              cases ran
              refine ⟨step rfl ?_, ⟨sound, proper.locals⟩⟩
              simp [Expr.emptyMatches, isPattern, literal, parsed, matchesEmpty]
          · next matchesNot =>
              cases ran
              refine ⟨step rfl ?_, ⟨sound, proper.locals⟩⟩
              simp [Expr.emptyMatches, isPattern, literal, parsed, matchesNot]

theorem eq_literal_of_literalText? {e : Rule} {text : String}
    (literal : e.literalText? = some text) : ∃ span, e = .literal span (.text text) := by
  unfold Expr.literalText? at literal
  split at literal
  · next span _ =>
      cases literal
      exact ⟨span, rfl⟩
  · cases literal

/-- The pattern among the arguments of a call is read, if there is one. -/
theorem takes_argumentPatterns {span : Span} {f : String} {args : List Rule}
    {body : Function.Body} (found : Function.find f args.length = .ok body)
    (ordinary : body ≠ .setter) : Takes [.call span f args] (argumentPatterns body args) := by
  have noAssignment : Expr.assigned? (.call span f args) = none := by
    unfold Expr.assigned?
    split
    · next same => cases same
    · next f target value same =>
        cases same
        rw [show [target, value].length = 2 from rfl] at found
        rw [found]
        cases body with
        | setter => exact absurd rfl ordinary
        | _ => rfl
    · rfl
  unfold argumentPatterns
  split
  · next pattern isArgument =>
      apply takes_literalPattern
      · simp [Expr.pattern?, found, isArgument]
      · rfl
      · exact noAssignment
      · rfl
  · next noArgument =>
      apply takes_nothing.quiet
      refine ⟨rfl, noAssignment, ?_⟩
      simp [Expr.deprecations, Expr.emptyMatches, Expr.pattern?, found, noArgument]

end Check

/-! ## Whole rules -/

open Check

mutual

/-- The check of an expression goes over its nodes. -/
theorem takes_visit : ∀ e : Rule, Takes (visited e) (visit e)
  | .literal _ _ => takes_nothing.quiet ⟨rfl, rfl, rfl⟩
  | .var span x => takes_readVariable span x
  | .list _ items => (takes_visitAll items).quiet ⟨rfl, rfl, rfl⟩
  | .unary _ _ operand => (takes_visit operand).quiet ⟨rfl, rfl, rfl⟩
  | .arith _ _ left right => ((takes_visit left).bind (takes_visit right)).quiet ⟨rfl, rfl, rfl⟩
  | .compare _ _ left right => ((takes_visit left).bind (takes_visit right)).quiet ⟨rfl, rfl, rfl⟩
  | .logic _ _ left right => ((takes_visit left).bind (takes_visit right)).quiet ⟨rfl, rfl, rfl⟩
  | .keyword span op left right => by
      rw [visited, List.append_assoc]
      refine (takes_visit left).bind ((takes_visit right).bind ?_)
      cases matching : Function.patternCase? op with
      | some insensitive =>
          apply takes_literalPattern
          · simp [Expr.pattern?, matching]
          · rfl
          · rfl
          · rfl
      | none =>
          apply takes_nothing.quiet
          refine ⟨rfl, rfl, ?_⟩
          simp [Expr.deprecations, Expr.emptyMatches, Expr.pattern?, matching]
  | .conditional _ condition yes no => by
      rw [visited, List.append_assoc (visited condition)]
      exact ((takes_visit condition).bind
        ((takes_visit yes).bind (takes_visitOption no))).quiet ⟨rfl, rfl, rfl⟩
  | .call span f args => by
      intro c d ran proper
      rcases succeeds_call ran with ⟨body, found, ordinary, ran⟩ | ⟨found, ran⟩
      · exact (takes_visitAll args).bind (takes_argumentPatterns found ordinary) c d ran proper
      · exact takes_visitSetter args found c d ran proper
  | .index _ base position =>
      ((takes_visit base).bind (takes_visit position)).quiet ⟨rfl, rfl, rfl⟩
  | .assign _ _ value => (takes_visit value).bind (takes_assign rfl rfl rfl)
  | .indexAssign _ _ position value => by
      intro c d ran proper
      obtain ⟨_, _, named, parts⟩ := ran.bind
      obtain ⟨-, -, rfl⟩ := succeeds_assignItem named
      exact ((takes_visitOption position).bind (takes_visit value)).quiet ⟨rfl, rfl, rfl⟩
        _ d parts proper
  | .sequence _ statements => (takes_visitAll statements).quiet ⟨rfl, rfl, rfl⟩

theorem takes_visitAll : ∀ es : List Rule, Takes (visitedAll es) (visitAll es)
  | [] => takes_nothing
  | e :: es => (takes_visit e).bind (takes_visitAll es)

theorem takes_visitOption : ∀ e : Option Rule, Takes (visitedOption e) (visitOption e)
  | none => takes_nothing
  | some e => takes_visit e

theorem takes_visitSetter {span : Span} {f : String} : ∀ args : List Rule,
    Function.find f args.length = .ok .setter →
      Takes (visitedAll args ++ [.call span f args]) (visitSetter args)
  | [target, value], found => by
      intro c d ran proper
      obtain ⟨name, _, nameRan, parts⟩ := ran.bind
      obtain ⟨rfl, text, literal, rfl⟩ := succeeds_setterName nameRan
      have two : Function.find f 2 = .ok .setter := found
      have isAssignment : Expr.assigned? (.call span f [target, value]) =
          some (Variable.fold text, target.mark.start.index) := by
        simp [Expr.assigned?, two, literal]
      have noDoubt : Expr.deprecations (.call span f [target, value]) ++
          Expr.emptyMatches (.call span f [target, value]) = [] := by
        simp [Expr.deprecations, Expr.emptyMatches, Expr.pattern?, two, Function.Body.pattern?]
      obtain ⟨place, rfl⟩ := eq_literal_of_literalText? literal
      have name : Takes [.literal place (.text text)] (pure ()) :=
        takes_nothing.quiet ⟨rfl, rfl, rfl⟩
      rw [visitedAll, visitedAll, visitedAll, List.append_nil, List.append_assoc]
      exact name.bind ((takes_visit value).bind (takes_assign isAssignment rfl noDoubt))
        _ d parts proper
  | _ :: _ :: _ :: _, found => absurd (Function.eq_two_of_setter found) (by simp)
  | [_], found => absurd (Function.eq_two_of_setter found) (by simp)
  | [], found => absurd (Function.eq_two_of_setter found) (by simp)

end

end EditGuard.Rule
