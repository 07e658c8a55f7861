import EditGuard.Pattern.Escape

/-!
# Classes in brackets

A class lists characters, ranges, escapes and inner classes between brackets,
and may intersect or subtract sets.  The reader keeps the enclosing classes and
the operations that wait for their right operand on a stack.
-/

namespace EditGuard.Pattern.Reader

/-- The operations on the sets of a class. -/
inductive SetOp where
  | inter
  | diff
  | symmDiff
deriving Repr, DecidableEq, Inhabited

/-- The members of a class so far, how many items they come from, and how
deeply those nest. -/
structure Members where
  set : CharSet
  count : Nat
  depth : Nat
deriving Repr, DecidableEq, Inhabited

namespace Members

def none : Members := ⟨.empty, 0, 0⟩

/-- One more item. -/
def add (m : Members) (s : CharSet) (depth : Nat) : Members :=
  ⟨if m.count = 0 then s else .union m.set s, m.count + 1, max m.depth depth⟩

/-- How deeply the members nest as one operand. -/
def operandDepth (m : Members) : Nat :=
  if m.count ≤ 1 then m.depth else m.depth + 1

end Members

/-- A set and how deeply it nests. -/
structure Operand where
  set : CharSet
  depth : Nat
deriving Repr, DecidableEq, Inhabited

/-- What waits while a class is read: an enclosing class, or an operation with
its left operand. -/
inductive ClassFrame where
  | enclosing (members : Members) (negated : Bool)
  | operation (op : SetOp) (left : Operand)
deriving Repr, DecidableEq, Inhabited

/-- Apply an operation to sets, each folded by itself. -/
def SetOp.apply (op : SetOp) (flags : Flags) (a b : CharSet) : CharSet :=
  let fold (s : CharSet) : CharSet :=
    if !flags.insensitive then s
    else if flags.unicode then .folded s
    else .asciiFolded s
  match op with
  | .inter => .inter (fold a) (fold b)
  | .diff => .diff (fold a) (fold b)
  | .symmDiff => .symmDiff (fold a) (fold b)

/-- The set of the innermost class, and the frames outside of it. -/
def closeOperation (flags : Flags) (members : Members) (frames : List ClassFrame) :
    Operand × List ClassFrame :=
  match frames with
  | .operation op left :: frames =>
      (⟨op.apply flags left.set members.set, max left.depth members.operandDepth + 1⟩,
        frames)
  | frames => (⟨members.set, members.operandDepth⟩, frames)

/-- A literal as a member of a class. -/
def memberSet (flags : Flags) (c : Char) : Reading CharSet :=
  if !flags.unicode && 0x80 ≤ c.toNat then .error .notUnicode
  else .ok (.single c.toNat)

/-- Hyphens at the beginning of a class stand for themselves. -/
def leadingHyphens (flags : Flags) (members : Members) (cs : List Char) :
    Members × List Char :=
  match cs with
  | '-' :: rest => leadingHyphens flags (members.add (.single 0x2D) 0) (skip flags rest)
  | _ => (members, cs)
termination_by cs.length
decreasing_by
  have := length_skip_le flags rest
  simp only [List.length_cons]
  omega

/-- What follows an opening bracket: whether the class is negated, and the
members that only stand for themselves at its beginning. -/
def openClass (flags : Flags) (cs : List Char) : Reading ((Bool × Members) × List Char) := do
  let (negated, cs) :=
    match skip flags cs with
    | '^' :: rest => (true, skip flags rest)
    | cs => (false, cs)
  let (members, cs) := leadingHyphens flags .none cs
  match cs with
  | [] => throw .unclosedClass
  | ']' :: rest =>
      if members.count = 0 then
        let rest := skip flags rest
        if rest.isEmpty then throw .unclosedClass
        return ((negated, members.add (.single 0x5D) 0), rest)
      else return ((negated, members), cs)
  | _ => return ((negated, members), cs)

/-- A character or an escape in a class. -/
def classAtom (flags : Flags) : List Char → Reading (Atom × List Char)
  | [] => .error .unclosedClass
  | '\\' :: rest => escape flags rest
  | c :: rest => .ok (.literal c false, rest)

/-- A member of a class: a character, an escape, or a range. -/
def classMember (flags : Flags) (cs : List Char) : Reading (CharSet × List Char) := do
  let (first, rest) ← classAtom flags cs
  let rest := skip flags rest
  let single : Reading CharSet :=
    match first with
    | .literal c _ => memberSet flags c
    | .set s => .ok s
    | _ => .error .badClassEscape
  match rest with
  | [] => throw .unclosedClass
  | '-' :: more =>
      let more := skip flags more
      if more.head? = some ']' ∨ more.head? = some '-' then return (← single, rest)
      if more.isEmpty then throw .unclosedClass
      let (last, rest) ← classAtom flags more
      match first, last with
      | .literal a _, .literal b _ => do
          if b.toNat < a.toNat then throw .badClassRange
          let _ ← memberSet flags a
          let _ ← memberSet flags b
          return (.range a.toNat b.toNat, rest)
      | _, _ => throw .badClassRange
  | _ => return (← single, rest)

/-- Where the reading of a class stands: in the middle, or behind it. -/
inductive ClassState where
  | inside (members : Members) (frames : List ClassFrame)
  | closed (result : Operand)
deriving Inhabited

/-- Take one item of a class off the text. -/
def classStep (flags : Flags) (members : Members) (frames : List ClassFrame)
    (cs : List Char) : Reading (ClassState × List Char) :=
  let operate (op : SetOp) (rest : List Char) : Reading (ClassState × List Char) :=
    let (left, frames) := closeOperation flags members frames
    .ok (.inside .none (.operation op left :: frames), rest)
  match cs with
  | [] => .error .unclosedClass
  | '[' :: rest =>
      match namedClass? cs with
      | some ((s, negated), rest) => do
          return (.inside (members.add (← finishSet flags negated s) 0) frames, rest)
      | none => do
          let ((negated, inner), rest) ← openClass flags rest
          return (.inside inner (.enclosing members negated :: frames), rest)
  | ']' :: rest => do
      let (operand, frames) := closeOperation flags members frames
      match frames with
      | .enclosing outer negated :: frames =>
          let s ← finishSet flags negated operand.set
          if frames.isEmpty then return (.closed ⟨s, operand.depth + 1⟩, rest)
          return (.inside (outer.add s (operand.depth + 1)) frames, rest)
      | _ => throw .unclosedClass
  | '&' :: '&' :: rest => operate .inter rest
  | '-' :: '-' :: rest => operate .diff rest
  | '~' :: '~' :: rest => operate .symmDiff rest
  | _ => do
      let (s, rest) ← classMember flags cs
      return (.inside (members.add s 0) frames, rest)

/-- Read a class up to its closing bracket. -/
def classRest (flags : Flags) (members : Members) (frames : List ClassFrame)
    (cs : List Char) : Reading (Operand × List Char) :=
  match classStep flags members frames (skip flags cs) with
  | .error e => .error e
  | .ok (.closed operand, rest) => .ok (operand, rest)
  | .ok (.inside members frames, rest) =>
      if _shorter : rest.length < cs.length then classRest flags members frames rest
      else .error .unclosedClass
termination_by cs.length

/-- Read a class after its opening bracket. -/
def bracketed (flags : Flags) (cs : List Char) : Reading (Operand × List Char) := do
  let ((negated, members), rest) ← openClass flags cs
  classRest flags members [.enclosing .none negated] rest

end EditGuard.Pattern.Reader
