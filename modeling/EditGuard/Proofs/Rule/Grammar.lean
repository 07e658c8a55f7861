import EditGuard.Rule.Parser

/-!
# The grammar of the rule language

Which trees a row of lexemes derives.  The grammar does not say how it is read: all
binary operations are left recursive, and a bracket after a name belongs to whatever
derives it.  A derivation names the lexemes that follow it, since a name is a variable
only if no opening parenthesis does.

From the loosest to the tightest category: assignments, conditionals, seven levels of
binary operators, negations, keyword operations, signed operands, indexed operands and
primaries.
-/

namespace EditGuard.Rule

/-- An expression without marks. -/
abbrev Tree := Expr Unit

/-- The tree of a rule, without the places in the text. -/
def tree (rule : Rule) : Tree :=
  rule.map fun _ => ()

/-- The trees of several rules. -/
def trees (rules : List Rule) : List Tree :=
  rules.map tree

namespace Grammar

/-! ## Operators -/

/-- The levels of the binary operators that are written as signs. -/
inductive Level where
  | disjunction
  | conjunction
  | equality
  | relation
  | sum
  | product
  | power
deriving Repr, DecidableEq, Inhabited

/-- The node of a binary operator without a place. -/
def node : Parser.BinaryOp → Tree → Tree → Tree
  | .arith op, l, r => .arith () op l r
  | .compare op, l, r => .compare () op l r
  | .logic op, l, r => .logic () op l r

/-- A sign is an operator of a level. -/
inductive Joins : Level → Operator → Parser.BinaryOp → Prop
  | or : Joins .disjunction .or (.logic .or)
  | xor : Joins .disjunction .xor (.logic .xor)
  | and : Joins .conjunction .and (.logic .and)
  | eq : Joins .equality .eq (.compare .eq)
  | equals : Joins .equality .equals (.compare .eq)
  | ne : Joins .equality .ne (.compare .ne)
  | strictEq : Joins .equality .strictEq (.compare .strictEq)
  | strictNe : Joins .equality .strictNe (.compare .strictNe)
  | lt : Joins .relation .lt (.compare .lt)
  | le : Joins .relation .le (.compare .le)
  | gt : Joins .relation .gt (.compare .gt)
  | ge : Joins .relation .ge (.compare .ge)
  | plus : Joins .sum .plus (.arith .add)
  | minus : Joins .sum .minus (.arith .sub)
  | times : Joins .product .times (.arith .mul)
  | divide : Joins .product .divide (.arith .div)
  | modulo : Joins .product .modulo (.arith .mod)
  | power : Joins .power .power (.arith .pow)

/-- The signs of an operand. -/
inductive Signs : Operator → UnaryOp → Prop
  | minus : Signs .minus .neg
  | plus : Signs .plus .plus

/-- A keyword is an operator between two operands. -/
inductive Relates : Keyword → KeywordOp → Prop
  | within : Relates .within .within
  | like : Relates .like .like
  | matching : Relates .matching .like
  | contains : Relates .contains .contains
  | rlike : Relates .rlike .rlike
  | regex : Relates .regex .rlike
  | irlike : Relates .irlike .irlike

/-- A lexeme is a literal of a value. -/
inductive Literal : Lexeme → Value → Prop
  | int (n : Int64) : Literal (.int n) (.int n)
  | float (x : Float) : Literal (.float x) (.float x)
  | text (s : String) : Literal (.text s) (.text s)
  | yes : Literal (.keyword .trueLiteral) (.bool true)
  | no : Literal (.keyword .falseLiteral) (.bool false)
  | null : Literal (.keyword .nullLiteral) .null

/-! ## Derivations -/

/-- The categories of expressions. -/
inductive Category where
  | assignment
  | conditional
  | operation (level : Level)
  | negation
  | keyword
  | signed
  | indexed
  | primary
deriving Repr, DecidableEq, Inhabited

/-- The category of the first operand of a level and of the operands after its signs. -/
def Level.operand : Level → Category
  | disjunction => .operation .conjunction
  | conjunction => .operation .equality
  | equality => .operation .relation
  | relation => .operation .sum
  | sum => .operation .product
  | product => .operation .power
  | power => .negation

/-- Statements as one tree: itself, if it is a single statement. -/
def block : List Tree → Tree
  | [statement] => statement
  | statements => .sequence () statements

mutual

/-- The lexemes of a row up to a rest of it derive a tree in a category of expressions. -/
inductive Derives : Category → List Lexeme → List Lexeme → Tree → Prop
  | assign {x ws rest e} (value : Derives .assignment ws rest e) :
      Derives .assignment (.name x :: .operator .assign :: ws) rest (.assign () x e)
  | append {x ws rest e} (value : Derives .assignment ws rest e) :
      Derives .assignment
        (.name x :: .leftBracket :: .rightBracket :: .operator .assign :: ws) rest
        (.indexAssign () x none e)
  | assignItem {x ws vs rest i e}
      (position : Derives .assignment ws (.rightBracket :: .operator .assign :: vs) i)
      (value : Derives .assignment vs rest e) :
      Derives .assignment (.name x :: .leftBracket :: ws) rest (.indexAssign () x (some i) e)
  | unassigned {ws rest e} (conditional : Derives .conditional ws rest e) :
      Derives .assignment ws rest e
  | ifThen {ws us rest c y}
      (condition : Derives (.operation .disjunction) ws (.keyword .thenBranch :: us) c)
      (yes : Derives .assignment us (.keyword .endIf :: rest) y) :
      Derives .conditional (.keyword .ifThen :: ws) rest (.conditional () c y none)
  | ifThenElse {ws us vs rest c y n}
      (condition : Derives (.operation .disjunction) ws (.keyword .thenBranch :: us) c)
      (yes : Derives .assignment us (.keyword .elseBranch :: vs) y)
      (no : Derives .assignment vs (.keyword .endIf :: rest) n) :
      Derives .conditional (.keyword .ifThen :: ws) rest (.conditional () c y (some n))
  | choice {ws us vs rest c y n}
      (condition : Derives (.operation .disjunction) ws (.operator .question :: us) c)
      (yes : Derives .conditional us (.operator .colon :: vs) y)
      (no : Derives .conditional vs rest n) :
      Derives .conditional ws rest (.conditional () c y (some n))
  | unconditional {ws rest e} (operation : Derives (.operation .disjunction) ws rest e) :
      Derives .conditional ws rest e
  | operation {level : Level} {sign op ws vs rest l r} (joins : Joins level sign op)
      (left : Derives (.operation level) ws (.operator sign :: vs) l)
      (right : Derives level.operand vs rest r) :
      Derives (.operation level) ws rest (node op l r)
  | operand {level : Level} {ws rest e} (operand : Derives level.operand ws rest e) :
      Derives (.operation level) ws rest e
  | not {ws rest e} (operand : Derives .negation ws rest e) :
      Derives .negation (.operator .not :: ws) rest (.unary () .not e)
  | affirmed {ws rest e} (keyword : Derives .keyword ws rest e) : Derives .negation ws rest e
  | keyword {k op ws vs rest l r} (relates : Relates k op)
      (left : Derives .signed ws (.keyword k :: vs) l) (right : Derives .signed vs rest r) :
      Derives .keyword ws rest (.keyword () op l r)
  | unrelated {ws rest e} (signed : Derives .signed ws rest e) : Derives .keyword ws rest e
  | sign {sign op ws rest e} (signs : Signs sign op) (operand : Derives .signed ws rest e) :
      Derives .signed (.operator sign :: ws) rest (.unary () op e)
  | unsigned {ws rest e} (indexed : Derives .indexed ws rest e) : Derives .signed ws rest e
  | index {ws vs rest e i} (base : Derives .indexed ws (.leftBracket :: vs) e)
      (position : Derives .assignment vs (.rightBracket :: rest) i) :
      Derives .indexed ws rest (.index () e i)
  | whole {ws rest e} (primary : Derives .primary ws rest e) : Derives .indexed ws rest e
  | literal {w rest v} (literal : Literal w v) : Derives .primary (w :: rest) rest (.literal () v)
  | callNothing {f rest} :
      Derives .primary (.name f :: .leftParen :: .rightParen :: rest) rest (.call () f [])
  | call {f ws rest es} (args : DerivesItems ws (.rightParen :: rest) es) :
      Derives .primary (.name f :: .leftParen :: ws) rest (.call () f es)
  | var {x rest} (notCall : rest.head? ≠ some .leftParen) :
      Derives .primary (.name x :: rest) rest (.var () x)
  | parentheses {ws rest es} (body : DerivesStatements ws (.rightParen :: rest) es)
      (notEmpty : ws ≠ .rightParen :: rest) :
      Derives .primary (.leftParen :: ws) rest (block es)
  | emptyList {rest} :
      Derives .primary (.leftBracket :: .rightBracket :: rest) rest (.list () [])
  | list {ws rest es} (members : DerivesItems ws (.rightBracket :: rest) es) :
      Derives .primary (.leftBracket :: ws) rest (.list () es)

/-- Assignments with commas between them. -/
inductive DerivesItems : List Lexeme → List Lexeme → List Tree → Prop
  | last {ws rest e} (item : Derives .assignment ws rest e) : DerivesItems ws rest [e]
  | comma {ws vs rest e es} (item : Derives .assignment ws (.comma :: vs) e)
      (more : DerivesItems vs rest es) : DerivesItems ws rest (e :: es)

/-- Assignments with at least one semicolon between two of them, and any number of
semicolons before and after them. -/
inductive DerivesStatements : List Lexeme → List Lexeme → List Tree → Prop
  | nothing {rest} : DerivesStatements rest rest []
  | skip {ws rest es} (more : DerivesStatements ws rest es) :
      DerivesStatements (.semicolon :: ws) rest es
  | last {ws rest e} (statement : Derives .assignment ws rest e) :
      DerivesStatements ws rest [e]
  | next {ws vs rest e es} (statement : Derives .assignment ws (.semicolon :: vs) e)
      (more : DerivesStatements vs rest es) : DerivesStatements ws rest (e :: es)

end

/-- The lexemes of a whole rule derive a tree. -/
def DerivesRule (ws : List Lexeme) (e : Tree) : Prop :=
  ∃ es, DerivesStatements ws [] es ∧ e = block es

end Grammar

end EditGuard.Rule
