import EditGuard.Function
import EditGuard.Rule.Operation
import EditGuard.Rule.Parser
import EditGuard.Variable.Lookup

/-!
# Evaluating rules

A rule is evaluated against the variables of an action.  Comparisons, logic,
keyword operators, conditionals and calls count as conditions, each before its
operands.  Local variables live as long as one evaluation; what pending
variables were found to be, the conditions counted, and the patterns read
remain, also after a failure.
-/

namespace EditGuard.Rule

open Variable (Memory Reading Host)

/-- Why a rule has no value: a problem in the rule or a fault outside of it. -/
inductive Failure where
  | finding (f : Finding)
  | fault (f : Fault)
deriving Repr, DecidableEq, Inhabited

namespace Failure

/-- Whether the author of the rule is to see the failure. -/
def isVisible : Failure → Bool
  | finding _ => true
  | fault (.reported _ _ _) => true
  | fault _ => false

/-- Whether the conditions of a batch were used up. -/
def isExhaustion : Failure → Bool
  | fault (.overrun (.conditions _)) => true
  | _ => false

/-- The wording of a failure of a rule. -/
def report (source : Rule.Source) : Failure → String
  | finding f => f.report source
  | fault f => f.text

end Failure

/-- What an evaluation works on. -/
structure State where
  memory : Memory
  budget : Budget
  patterns : Pattern.Cache
  locals : Dictionary String Value
deriving Inhabited

/-- An evaluation, which may fail but keeps what it has done to the state. -/
abbrev Eval := ExceptT Failure (StateM State)

namespace Eval

/-- Report a problem at a place of the rule. -/
def refuse {α : Type} (span : Span) (p : Problem) : Eval α :=
  throw (.finding ⟨p, span⟩)

/-- Go on with a result, or report the problem at a place of the rule. -/
def require {α : Type} (span : Span) : Except Problem α → Eval α
  | .ok a => pure a
  | .error p => refuse span p

/-- Count a condition. -/
def count : Eval Unit := do
  let s ← get
  let (outcome, budget) := s.budget.raise 1
  set { s with budget }
  match outcome with
  | .ok () => pure ()
  | .error o => throw (.fault (.overrun o))

/-- Read variables of the action. -/
def reading {α : Type} (r : Reading α) : Eval α := do
  let s ← get
  let (outcome, memory) := r.run.run s.memory
  set { s with memory }
  match outcome with
  | .ok a => pure a
  | .error f => throw (.fault f)

/-- Give a local variable a value. -/
def bind (name : String) (v : Value) : Eval Unit :=
  modify fun s => { s with locals := s.locals.insert name v }

/-- Report an attempt to give a value to a variable of the action. -/
def requireLocal (span : Span) (name : String) : Eval Unit :=
  if Variable.isBuiltin name then refuse span (.overridesBuiltin name) else pure ()

/-- Read a variable.  Local variables come first. -/
def readVariable (host : Host) (span : Span) (name : String) : Eval Value := do
  let s ← get
  match s.locals.find? name with
  | some v => return v
  | none =>
      if Variable.isWithdrawn name then refuse span (.disabledVariable name)
      else if !Variable.isBuiltin name && !s.memory.vars.has name then
        refuse span (.unrecognisedVariable name)
      else reading (Variable.read host name .current)

/-- The span of an argument. -/
def argumentSpan (args : List Rule) (call : Span) (i : Nat) : Span :=
  ((args[i]?).map Expr.mark).getD call

/-- Apply a function to the values of its arguments. -/
def apply (span : Span) (args : List Rule) (body : Function.Body) (values : List Value) :
    Eval Value := do
  if values.any Value.isUndefined then return .undefined
  let s ← get
  match body.apply values s.patterns with
  | .ok (v, patterns) =>
      set { s with patterns }
      return v
  | .error refusal => refuse (argumentSpan args span refusal.argument) refusal.problem

/-- Apply a keyword operator, given the place of its right side. -/
def applyKeyword (rightSpan : Span) (op : KeywordOp) (left right : Value) : Eval Value := do
  if left.isUndefined || right.isUndefined then return .undefined
  let s ← get
  match Function.applyKeyword op left right s.patterns with
  | .ok (b, patterns) =>
      set { s with patterns }
      return .bool b
  | .error p => refuse rightSpan p

/-- The local variable that the first argument of a setter names. -/
def setterTarget (target : Rule) : Eval String :=
  match target.literalText? with
  | none => refuse target.mark .nameNotLiteral
  | some text => do
      let name := Variable.fold text
      requireLocal target.mark name
      return name

/-- Put a value into a list, at a place or at its end. -/
def place (items : List Value) (v : Value) : Option (Span × Value) → Eval (List Value)
  | none => return items ++ [v]
  | some (span, index) => do
      let i ← require span (placeOf index items.length)
      return items.set i v

/-- Assign to an item of a list, given the value of the local variable before and
the value of the index with its place. -/
def assignItem (span : Span) (name : String) (current : Value) (index : Option (Span × Value))
    (v : Value) : Eval Value := do
  match current with
  | .list items =>
      if (index.map fun i => i.2.isUndefined).getD false then
        bind name .undefined
        return .undefined
      bind name (.list (← place items v index))
      return v
  | .undefined => return .undefined
  | _ => refuse span .notList

end Eval

open Eval in
mutual

/-- The value of an expression. -/
def eval (host : Host) : Rule → Eval Value
  | .literal _ v => return v
  | .var span name => readVariable host span name
  | .list _ items => return .list (← evalAll host items)
  | .unary span op operand => do
      require span (op.apply (← eval host operand))
  | .arith span op left right => do
      let a ← eval host left
      let b ← eval host right
      require span (op.apply a b)
  | .compare _ op left right => do
      count
      let a ← eval host left
      let b ← eval host right
      return op.apply a b
  | .logic _ op left right => do
      count
      let a ← eval host left
      match op.decided? a with
      | some b => return .bool b
      | none => return op.apply a (← eval host right)
  | .keyword _ op left right => do
      count
      let a ← eval host left
      let b ← eval host right
      applyKeyword right.mark op a b
  | .conditional _ condition yes no => do
      count
      let c ← eval host condition
      if c.isUndefined then return .undefined
      if c.toBool then eval host yes else evalBranch host no
  | .call span function args => do
      count
      match ← require span (Function.find function args.length) with
      | .setter => evalSetter host args
      | body => apply span args body (← evalAll host args)
  | .index span base position => do
      let v ← eval host base
      let i ← eval host position
      if v.isUndefined || i.isUndefined then return .undefined
      match v with
      | .list items => require position.mark (itemAt items i)
      | _ => refuse span .notList
  | .assign span name value => do
      requireLocal span name
      let v ← eval host value
      bind name v
      return v
  | .indexAssign span name position value => do
      requireLocal span name
      match (← get).locals.find? name with
      | none => refuse span (.unrecognisedVariable name)
      | some current => do
          let index ← evalIndex host position
          let v ← eval host value
          assignItem span name current index v
  | .sequence _ statements => evalSequence host .null statements

/-- The values of several expressions. -/
def evalAll (host : Host) : List Rule → Eval (List Value)
  | [] => return []
  | e :: es => do
      let v ← eval host e
      return v :: (← evalAll host es)

/-- The value of the last of several statements, or of the one before them. -/
def evalSequence (host : Host) (last : Value) : List Rule → Eval Value
  | [] => return last
  | e :: es => do
      let v ← eval host e
      evalSequence host v es

/-- The value of a branch that may be missing. -/
def evalBranch (host : Host) : Option Rule → Eval Value
  | none => return .null
  | some e => eval host e

/-- The value of an index that may be missing, with its place. -/
def evalIndex (host : Host) : Option Rule → Eval (Option (Span × Value))
  | none => return none
  | some e => do
      let v ← eval host e
      return some (e.mark, v)

/-- The value of the second argument, which the local variable that the first one
names is given. -/
def evalSetter (host : Host) : List Rule → Eval Value
  | target :: value :: _ => do
      let name ← setterTarget target
      let v ← eval host value
      bind name v
      return v
  | _ => return .null

end

/-- Evaluate a rule, without any local variables at first. -/
def evaluate (host : Host) (rule : Rule) : Eval Value := do
  modify fun s => { s with locals := .empty }
  eval host rule

/-- Whether a rule matches the action. -/
def matchesAction (host : Host) (rule : Rule) : Eval Bool :=
  return (← evaluate host rule).toBool

end EditGuard.Rule
