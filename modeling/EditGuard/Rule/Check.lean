import EditGuard.Dictionary
import EditGuard.Function
import EditGuard.Rule.Parser
import EditGuard.Variable.Name

/-!
# Checking rules

A rule is checked without being evaluated.  All its branches are visited in the
order of the text: a local variable has to be assigned before it is read, calls
have to fit their functions, and literal patterns have to be well formed.  Some
correct rules still give rise to doubts.
-/

namespace EditGuard.Rule

/-- Where a local variable is first assigned, and whether it is read. -/
structure Local where
  position : Nat
  used : Bool
deriving Repr, DecidableEq, Inhabited

/-- What a check has found so far. -/
structure CheckState where
  locals : Dictionary String Local
  warnings : List Warning
  patterns : Pattern.Cache
deriving Inhabited

/-- A check, which ends at the first problem. -/
abbrev Check := StateT CheckState (Except Finding)

namespace Check

/-- The number of patterns that a check keeps. -/
def patternCapacity : Nat := 16

def start : CheckState :=
  ⟨.empty, [], .empty patternCapacity⟩

/-- Report a problem at a place of the rule. -/
def refuse {α : Type} (span : Span) (p : Problem) : Check α :=
  throw ⟨p, span⟩

/-- Note a doubt at a place of the rule. -/
def warn (span : Span) (d : Doubt) : Check Unit :=
  modify fun s => { s with warnings := s.warnings ++ [⟨d, span.start.index⟩] }

/-- A variable is read. -/
def readVariable (span : Span) (name : String) : Check Unit := do
  match (← get).locals.find? name with
  | some l => modify fun s => { s with locals := s.locals.insert name { l with used := true } }
  | none =>
      if Variable.isWithdrawn name then refuse span (.disabledVariable name)
      else
        match Variable.replacement? name with
        | some replacement => warn span (.deprecatedVariable name replacement)
        | none =>
            if Variable.isBuiltin name then pure ()
            else refuse span (.unrecognisedVariable name)

/-- A local variable is assigned. -/
def assign (span : Span) (name : String) : Check Unit :=
  if Variable.isBuiltin name then refuse span (.overridesBuiltin name)
  else modify fun s => { s with locals := s.locals.insertNew name ⟨span.start.index, false⟩ }

/-- An item is assigned to a local variable that holds a list. -/
def assignItem (span : Span) (name : String) : Check Unit := do
  if Variable.isBuiltin name then refuse span (.overridesBuiltin name)
  else if (← get).locals.contains name then pure ()
  else refuse span (.unrecognisedVariable name)

/-- Read a pattern that is a literal text. -/
def literalPattern (e : Rule) (insensitive : Bool) : Check Unit := do
  match e.literalText? with
  | none => pure ()
  | some text =>
      let s ← get
      match s.patterns.get text insensitive with
      | .error error => refuse e.mark (Function.badPattern text error)
      | .ok (p, patterns) =>
          set { s with patterns }
          if p.isMatch "" then warn e.mark (.matchesEmpty text)

/-- The literal patterns among the arguments of a function. -/
def argumentPatterns (body : Function.Body) (args : List Rule) : Check Unit :=
  match body.pattern?.bind fun i => args[i]? with
  | some pattern => literalPattern pattern false
  | none => pure ()

/-- The local variable that the first argument of a setter names. -/
def setterName (target : Rule) : Check String :=
  match target.literalText? with
  | none => refuse target.mark .nameNotLiteral
  | some text => return Variable.fold text

end Check

open Check in
mutual

/-- Check an expression. -/
def visit : Rule → Check Unit
  | .literal _ _ => pure ()
  | .var span name => readVariable span name
  | .list _ items => visitAll items
  | .unary _ _ operand => visit operand
  | .arith _ _ left right | .compare _ _ left right | .logic _ _ left right => do
      visit left
      visit right
  | .keyword _ op left right => do
      visit left
      visit right
      match Function.patternCase? op with
      | some insensitive => literalPattern right insensitive
      | none => pure ()
  | .conditional _ condition yes no => do
      visit condition
      visit yes
      visitOption no
  | .call span function args => do
      match Function.find function args.length with
      | .error p => refuse span p
      | .ok .setter => visitSetter args
      | .ok body =>
          visitAll args
          argumentPatterns body args
  | .index _ base position => do
      visit base
      visit position
  | .assign span name value => do
      visit value
      assign span name
  | .indexAssign span name position value => do
      Check.assignItem span name
      visitOption position
      visit value
  | .sequence _ statements => visitAll statements

def visitAll : List Rule → Check Unit
  | [] => pure ()
  | e :: es => do
      visit e
      visitAll es

def visitOption : Option Rule → Check Unit
  | none => pure ()
  | some e => visit e

/-- Check the value that a setter assigns, and then the assignment. -/
def visitSetter : List Rule → Check Unit
  | target :: value :: _ => do
      let name ← setterName target
      visit value
      assign target.mark name
  | _ => pure ()

end

/-- The doubts about local variables that are never read. -/
def unusedWarnings (locals : Dictionary String Local) : List Warning :=
  locals.entries.filterMap fun e =>
    if e.2.used then none else some ⟨.unusedVariable e.1, e.2.position⟩

/-- The doubts about a rule in the order of their places, or its first problem. -/
def check (rule : Rule) : Except Finding (List Warning) := do
  let ((), s) ← (visit rule).run Check.start
  return (s.warnings ++ unusedWarnings s.locals).mergeSort fun v w => v.position ≤ w.position

/-- Read and check a rule text. -/
def Source.check (s : Source) : Except Finding (List Warning) := do
  Rule.check (← s.parse)

end EditGuard.Rule
