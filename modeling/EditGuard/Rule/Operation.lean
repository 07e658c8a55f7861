import EditGuard.Rule.Expr
import EditGuard.Rule.Problem

/-!
# Operators on values

What the operators of rules make of values.  An undefined operand makes the
result undefined; only strict comparison treats it as a value of its own.
-/

namespace EditGuard.Rule

/-- An operator with one operand. -/
def UnaryOp.apply (op : UnaryOp) (v : Value) : Except Problem Value :=
  if v.isUndefined then .ok .undefined
  else
    match op with
    | .not => .ok (.bool !v.toBool)
    | .neg =>
        match v.toOperand? with
        | some n => .ok (.ofNumber n.neg)
        | none => .error .listInArithmetic
    | .plus =>
        match v.toOperand? with
        | some n => .ok (.ofNumber n)
        | none => .error .listInArithmetic

/-- An operator on numbers; none where it divides by zero. -/
def ArithOp.compute? : ArithOp → Number → Number → Option Number
  | .add, a, b => some (a.add b)
  | .sub, a, b => some (a.sub b)
  | .mul, a, b => some (a.mul b)
  | .div, a, b => a.div b
  | .mod, a, b => a.rem b
  | .pow, a, b => some (a.pow b)

/-- The sum of two lists or of texts, which is no arithmetic. -/
def join? : Value → Value → Option Value
  | .list as, .list bs => some (.list (as ++ bs))
  | .text s, b => some (.text (s ++ b.toText))
  | a, .text t => some (.text (a.toText ++ t))
  | _, _ => none

/-- An operator on the numbers of two values. -/
def ArithOp.applyNumbers (op : ArithOp) (a b : Value) : Except Problem Value :=
  match a.toOperand?, b.toOperand? with
  | some m, some n =>
      match op.compute? m n with
      | some result => .ok (.ofNumber result)
      | none => .error (.divisionByZero a.toText)
  | _, _ => .error .listInArithmetic

/-- An operator on numbers, lists and texts. -/
def ArithOp.apply (op : ArithOp) (a b : Value) : Except Problem Value :=
  if a.isUndefined || b.isUndefined then .ok .undefined
  else
    match if op = .add then join? a b else none with
    | some joined => .ok joined
    | none => op.applyNumbers a b

/-- A comparison. -/
def CompareOp.apply (op : CompareOp) (a b : Value) : Value :=
  let loosely (test : Bool) : Value :=
    if a.isUndefined || b.isUndefined then .undefined else .bool test
  let order := a.compare? b
  match op with
  | .strictEq => .bool (a.strictEq b)
  | .strictNe => .bool !(a.strictEq b)
  | .eq => loosely (a.looseEq b)
  | .ne => loosely !(a.looseEq b)
  | .lt => loosely (order == some .lt)
  | .le => loosely (order == some .lt || order == some .eq)
  | .gt => loosely (order == some .gt)
  | .ge => loosely (order == some .gt || order == some .eq)

/-- The result that the left operand of a logic operator decides by itself. -/
def LogicOp.decided? (op : LogicOp) (a : Value) : Option Bool :=
  match op with
  | .and => if !a.toBool && !a.isUndefined then some false else none
  | .or => if a.toBool then some true else none
  | .xor => none

/-- A logic operator with both operands. -/
def LogicOp.apply (op : LogicOp) (a b : Value) : Value :=
  if a.isUndefined || b.isUndefined then .undefined
  else
    match op with
    | .and => .bool (a.toBool && b.toBool)
    | .or => .bool (a.toBool || b.toBool)
    | .xor => .bool (a.toBool != b.toBool)

/-- The place in a list that a value stands for. -/
def placeOf (v : Value) (length : Nat) : Except Problem (Fin length) :=
  let i := v.toNumber.toInt.toInt
  if i < 0 then .error (.negativeIndex i)
  else if inside : i.toNat < length then .ok ⟨i.toNat, inside⟩
  else .error (.indexOutOfBounds i length)

/-- The item of a list. -/
def itemAt (items : List Value) (v : Value) : Except Problem Value :=
  (placeOf v items.length).map fun i => items[i]

end EditGuard.Rule
