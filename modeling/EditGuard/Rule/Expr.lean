import EditGuard.Rule.Source
import EditGuard.Value.Order

/-!
# Expressions of the rule language

The tree of a rule.  Every node is marked with a value of a type `α`; the
parser marks nodes with the stretch of text that they come from, and `Expr.map`
changes or erases the marks.
-/

namespace EditGuard.Rule

/-- Operators with one operand. -/
inductive UnaryOp where
  | not
  | neg
  | plus
deriving Repr, DecidableEq, Inhabited

/-- Operators on numbers. -/
inductive ArithOp where
  | add
  | sub
  | mul
  | div
  | mod
  | pow
deriving Repr, DecidableEq, Inhabited

/-- Comparisons. -/
inductive CompareOp where
  | eq
  | ne
  | strictEq
  | strictNe
  | lt
  | le
  | gt
  | ge
deriving Repr, DecidableEq, Inhabited

/-- Operators on truth values. -/
inductive LogicOp where
  | and
  | or
  | xor
deriving Repr, DecidableEq, Inhabited

/-- Operators spelled as keywords: two tests for a part of a text, a match with
a glob, and matches with a regular expression with and without regard to case. -/
inductive KeywordOp where
  | within
  | like
  | contains
  | rlike
  | irlike
deriving Repr, DecidableEq, Inhabited

/-- An expression with marks of type `α` on its nodes. -/
inductive Expr (α : Type) where
  | literal (mark : α) (value : Value)
  | var (mark : α) (name : String)
  | list (mark : α) (items : List (Expr α))
  | unary (mark : α) (op : UnaryOp) (operand : Expr α)
  | arith (mark : α) (op : ArithOp) (left right : Expr α)
  | compare (mark : α) (op : CompareOp) (left right : Expr α)
  | logic (mark : α) (op : LogicOp) (left right : Expr α)
  | keyword (mark : α) (op : KeywordOp) (left right : Expr α)
  /-- A choice between two branches, of which the second may be missing. -/
  | conditional (mark : α) (condition yes : Expr α) (no : Option (Expr α))
  | call (mark : α) (function : String) (args : List (Expr α))
  | index (mark : α) (base position : Expr α)
  | assign (mark : α) (name : String) (value : Expr α)
  /-- An assignment to an item of a list; without a position it appends. -/
  | indexAssign (mark : α) (name : String) (position : Option (Expr α)) (value : Expr α)
  | sequence (mark : α) (statements : List (Expr α))

namespace Expr

variable {α β : Type}

/-- The mark of the root. -/
def mark : Expr α → α
  | literal m _ | var m _ | list m _ | unary m _ _ | arith m _ _ _ | compare m _ _ _
  | logic m _ _ _ | keyword m _ _ _ | conditional m _ _ _ | call m _ _ | index m _ _
  | assign m _ _ | indexAssign m _ _ _ | sequence m _ => m

/-- The text of a literal text. -/
def literalText? : Expr α → Option String
  | literal _ (.text s) => some s
  | _ => none

mutual

/-- Change the marks. -/
def map (f : α → β) : Expr α → Expr β
  | literal m value => literal (f m) value
  | var m name => var (f m) name
  | list m items => list (f m) (mapAll f items)
  | unary m op operand => unary (f m) op (operand.map f)
  | arith m op left right => arith (f m) op (left.map f) (right.map f)
  | compare m op left right => compare (f m) op (left.map f) (right.map f)
  | logic m op left right => logic (f m) op (left.map f) (right.map f)
  | keyword m op left right => keyword (f m) op (left.map f) (right.map f)
  | conditional m condition yes no =>
      conditional (f m) (condition.map f) (yes.map f) (mapOption f no)
  | call m function args => call (f m) function (mapAll f args)
  | index m base position => index (f m) (base.map f) (position.map f)
  | assign m name value => assign (f m) name (value.map f)
  | indexAssign m name position value =>
      indexAssign (f m) name (mapOption f position) (value.map f)
  | sequence m statements => sequence (f m) (mapAll f statements)

def mapAll (f : α → β) : List (Expr α) → List (Expr β)
  | [] => []
  | e :: es => e.map f :: mapAll f es

def mapOption (f : α → β) : Option (Expr α) → Option (Expr β)
  | none => none
  | some e => some (e.map f)

end

mutual

/-- Whether two trees are equal when marks are compared by `same`. -/
def sameTree (same : α → α → Bool) : Expr α → Expr α → Bool
  | literal m v, literal n w => same m n && v.strictEq w
  | var m x, var n y => same m n && x == y
  | list m es, list n fs => same m n && sameTrees same es fs
  | unary m o e, unary n p f => same m n && o == p && sameTree same e f
  | arith m o a b, arith n p c d =>
      same m n && o == p && sameTree same a c && sameTree same b d
  | compare m o a b, compare n p c d =>
      same m n && o == p && sameTree same a c && sameTree same b d
  | logic m o a b, logic n p c d =>
      same m n && o == p && sameTree same a c && sameTree same b d
  | keyword m o a b, keyword n p c d =>
      same m n && o == p && sameTree same a c && sameTree same b d
  | conditional m a b e, conditional n c d f =>
      same m n && sameTree same a c && sameTree same b d && sameOption same e f
  | call m x es, call n y fs => same m n && x == y && sameTrees same es fs
  | index m a b, index n c d => same m n && sameTree same a c && sameTree same b d
  | assign m x e, assign n y f => same m n && x == y && sameTree same e f
  | indexAssign m x a b, indexAssign n y c d =>
      same m n && x == y && sameOption same a c && sameTree same b d
  | sequence m es, sequence n fs => same m n && sameTrees same es fs
  | _, _ => false

def sameTrees (same : α → α → Bool) : List (Expr α) → List (Expr α) → Bool
  | [], [] => true
  | e :: es, f :: fs => sameTree same e f && sameTrees same es fs
  | _, _ => false

def sameOption (same : α → α → Bool) : Option (Expr α) → Option (Expr α) → Bool
  | none, none => true
  | some e, some f => sameTree same e f
  | _, _ => false

end

end Expr

end EditGuard.Rule

namespace EditGuard

/-- A parsed rule: its tree with the stretches of text that the nodes cover. -/
abbrev Rule := Rule.Expr Rule.Span

/-- Whether two rules have the same tree at the same places. -/
def Rule.same (a b : Rule) : Bool :=
  a.sameTree Span.samePlace b

end EditGuard
