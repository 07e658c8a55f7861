import EditGuard.Rule.Expr
import EditGuard.Rule.Lexer

/-!
# Reading rules

A recursive descent parser on the tokens of a rule.  The binary operators that
are signs form seven levels of precedence, all associating to the left; the
other forms have a function each.  Every function reports how many tokens are
left in its result, which is what the recursion runs on.

From the loosest to the tightest: statements, assignments, conditionals, the
binary levels from seven down to one, `!`, the keyword operators, signs, and
indexing.
-/

namespace EditGuard.Rule

/-- A result of type `α`, the byte offset where the last token read ends, and
the tokens that follow, which are fewer than `bound`. -/
structure Parse (α : Type) (bound : Nat) where
  value : α
  last : Nat
  rest : List Token
  shorter : rest.length < bound

/-- A result seen under a larger bound. -/
def Parse.widen {α : Type} {m n : Nat} (p : Parse α m) (h : m ≤ n) : Parse α n :=
  ⟨p.value, p.last, p.rest, Nat.lt_of_lt_of_le p.shorter h⟩

/-- Change a result. -/
def Parse.map {α β : Type} {n : Nat} (f : α → β) (p : Parse α n) : Parse β n :=
  ⟨f p.value, p.last, p.rest, p.shorter⟩

/-- An outcome of reading, or the first problem. -/
abbrev Parsing (α : Type) (bound : Nat) := Except Finding (Parse α bound)

namespace Parser

/-! ## Places and problems -/

/-- The stretch of the next token, or the empty one at the end of the rule. -/
def here (finish : Mark) : List Token → Span
  | [] => Span.empty finish
  | t :: _ => t.span

/-- The stretch from the beginning of one to where the last token read ends. -/
def through (start : Span) (last : Nat) : Span :=
  ⟨start.start, max last start.stop⟩

/-- How messages name and show the next token. -/
def found : List Token → String × String
  | [] => (Lexeme.endName, "")
  | t :: _ => (t.lexeme.kindName, t.shown)

/-- The next token cannot stand here. -/
def unexpected (finish : Mark) (ts : List Token) : Finding :=
  ⟨.unexpectedToken (found ts).1 (found ts).2, here finish ts⟩

/-- Another token has to stand here. -/
def missing (finish : Mark) (kind text : String) (ts : List Token) : Finding :=
  ⟨.expectedNotFound kind text (found ts).1 (found ts).2, here finish ts⟩

/-! ## Operators -/

/-- A binary operator that is written as a sign. -/
inductive BinaryOp where
  | arith (op : ArithOp)
  | compare (op : CompareOp)
  | logic (op : LogicOp)
deriving Repr, DecidableEq, Inhabited

/-- The node of a binary operator. -/
def BinaryOp.node (op : BinaryOp) (span : Span) (left right : Rule) : Rule :=
  match op with
  | arith op => .arith span op left right
  | compare op => .compare span op left right
  | logic op => .logic span op left right

/-- The loosest level of the binary operators. -/
def loosest : Nat := 7

/-- The binary operator of a level that a sign stands for. -/
def binaryOp? : Nat → Operator → Option BinaryOp
  | 1, .power => some (.arith .pow)
  | 2, .times => some (.arith .mul)
  | 2, .divide => some (.arith .div)
  | 2, .modulo => some (.arith .mod)
  | 3, .plus => some (.arith .add)
  | 3, .minus => some (.arith .sub)
  | 4, .lt => some (.compare .lt)
  | 4, .le => some (.compare .le)
  | 4, .gt => some (.compare .gt)
  | 4, .ge => some (.compare .ge)
  | 5, .eq => some (.compare .eq)
  | 5, .equals => some (.compare .eq)
  | 5, .ne => some (.compare .ne)
  | 5, .strictEq => some (.compare .strictEq)
  | 5, .strictNe => some (.compare .strictNe)
  | 6, .and => some (.logic .and)
  | 7, .or => some (.logic .or)
  | 7, .xor => some (.logic .xor)
  | _, _ => none

/-- The operator that a keyword stands for. -/
def keywordOp? : Keyword → Option KeywordOp
  | .within => some .within
  | .like | .matching => some .like
  | .contains => some .contains
  | .rlike | .regex => some .rlike
  | .irlike => some .irlike
  | _ => none

/-- The sign of an operand. -/
def signOp? : Operator → Option UnaryOp
  | .minus => some .neg
  | .plus => some .plus
  | _ => none

/-- The value of a keyword that is a literal. -/
def keywordValue? : Keyword → Option Value
  | .trueLiteral => some (.bool true)
  | .falseLiteral => some (.bool false)
  | .nullLiteral => some .null
  | _ => none

/-! ## Single tokens -/

/-- Read a keyword. -/
def expectKeyword (finish : Mark) (k : Keyword) (ts : List Token) :
    Parsing Unit ts.length :=
  match ts with
  | ⟨.keyword j, written, span⟩ :: rest =>
      if j = k then .ok ⟨(), span.stop, rest, by simp⟩
      else .error (missing finish "keyword" k.word (⟨.keyword j, written, span⟩ :: rest))
  | ts => .error (missing finish "keyword" k.word ts)

/-- Read a colon. -/
def expectColon (finish : Mark) (ts : List Token) : Parsing Unit ts.length :=
  match ts with
  | ⟨.operator .colon, _, span⟩ :: rest => .ok ⟨(), span.stop, rest, by simp⟩
  | ts => .error (missing finish "operator" ":" ts)

/-- Read a closing parenthesis. -/
def expectRightParen (finish : Mark) (ts : List Token) : Parsing Unit ts.length :=
  match ts with
  | ⟨.rightParen, _, span⟩ :: rest => .ok ⟨(), span.stop, rest, by simp⟩
  | ts => .error (missing finish "parenthesis" ")" ts)

/-- Read a closing bracket. -/
def expectRightBracket (finish : Mark) (ts : List Token) : Parsing Unit ts.length :=
  match ts with
  | ⟨.rightBracket, _, span⟩ :: rest => .ok ⟨(), span.stop, rest, by simp⟩
  | ts => .error (missing finish "square bracket" "]" ts)

/-- A list of statements as one node: itself, if it is a single statement. -/
def block (start : Span) (last : Nat) : List Rule → Rule
  | [statement] => statement
  | statements => .sequence (through start last) statements

/-! ## The grammar -/

mutual

/-- Statements with semicolons between them, up to the end of the rule, or up
to a closing parenthesis if they are enclosed in parentheses. -/
def statements (finish : Mark) (enclosed : Bool) (last : Nat) (ts : List Token) :
    Parsing (List Rule) (ts.length + 1) :=
  match ts with
  | [] => .ok ⟨[], last, [], by simp⟩
  | ⟨.semicolon, _, span⟩ :: rest => do
      let more ← statements finish enclosed span.stop rest
      return more.widen (by simp)
  | t :: rest =>
      if enclosed && t.lexeme matches .rightParen then
        .ok ⟨[], last, t :: rest, by simp⟩
      else do
        let statement ← assignment finish (t :: rest)
        have shorter := statement.shorter
        match next : statement.rest with
        | ⟨.semicolon, _, span⟩ :: following => do
            have bound : following.length < rest.length := by
              simpa [next] using shorter
            let more ← statements finish enclosed span.stop following
            return (more.map (statement.value :: ·)).widen (by simp; omega)
        | _ => return ⟨[statement.value], statement.last, statement.rest, by omega⟩
termination_by 20 * ts.length + 15

/-- An assignment to a variable or to an item of a list, or a conditional.  A
bracket after a name begins an assignment if what follows reads as one. -/
def assignment (finish : Mark) (ts : List Token) :
    Parsing Rule ts.length :=
  match ts with
  | ⟨.name x, _, start⟩ :: ⟨.operator .assign, _, span⟩ :: rest => do
      let value ← assignment finish rest
      return (value.map (.assign (through start value.last) x)).widen (by simp; omega)
  | ⟨.name x, _, start⟩ :: ⟨.leftBracket, _, _⟩ :: ⟨.rightBracket, _, _⟩ ::
      ⟨.operator .assign, _, span⟩ :: rest => do
      let value ← assignment finish rest
      return (value.map (.indexAssign (through start value.last) x none)).widen
        (by simp; omega)
  | ⟨.name x, written, start⟩ :: ⟨.leftBracket, bracket, span⟩ :: rest =>
      match assignment finish rest with
      | .ok position =>
          have shorter := position.shorter
          match next : position.rest with
          | ⟨.rightBracket, _, _⟩ :: ⟨.operator .assign, _, sign⟩ :: following => do
              have bound : following.length + 2 < rest.length := by
                simpa [next] using shorter
              let value ← assignment finish following
              return (value.map (.indexAssign (through start value.last) x
                (some position.value))).widen (by simp; omega)
          | _ =>
              conditional finish
                (⟨.name x, written, start⟩ :: ⟨.leftBracket, bracket, span⟩ :: rest)
      | .error _ =>
          conditional finish
            (⟨.name x, written, start⟩ :: ⟨.leftBracket, bracket, span⟩ :: rest)
  | ts => conditional finish ts
termination_by 20 * ts.length + 14

/-- A choice written with `if` or with a question mark, or a binary operation. -/
def conditional (finish : Mark) (ts : List Token) :
    Parsing Rule ts.length :=
  match ts with
  | ⟨.keyword .ifThen, _, start⟩ :: rest => do
      let condition ← binary finish loosest rest
      have := condition.shorter
      let word ← expectKeyword finish .thenBranch condition.rest
      have := word.shorter
      let yes ← assignment finish word.rest
      have := yes.shorter
      match other : yes.rest with
      | ⟨.keyword .elseBranch, _, span⟩ :: following => do
          have : following.length < yes.rest.length := by simp [other]
          let no ← assignment finish following
          have := no.shorter
          let close ← expectKeyword finish .endIf no.rest
          have := close.shorter
          return ⟨.conditional (through start close.last) condition.value yes.value
            (some no.value), close.last, close.rest, by simp; omega⟩
      | _ => do
          let close ← expectKeyword finish .endIf yes.rest
          have := close.shorter
          return ⟨.conditional (through start close.last) condition.value yes.value none,
            close.last, close.rest, by simp; omega⟩
  | ts => do
      let condition ← binary finish loosest ts
      have := condition.shorter
      match mark : condition.rest with
      | ⟨.operator .question, _, span⟩ :: rest => do
          have : rest.length < condition.rest.length := by simp [mark]
          let yes ← conditional finish rest
          have := yes.shorter
          let colon ← expectColon finish yes.rest
          have := colon.shorter
          let no ← conditional finish colon.rest
          have := no.shorter
          return ⟨.conditional (through (here finish ts) no.last) condition.value yes.value
            (some no.value), no.last, no.rest, by omega⟩
      | _ => return condition
termination_by 20 * ts.length + 13
decreasing_by all_goals (try simp only [List.length_cons, loosest] at *); omega

/-- Operations of a level of precedence and of all tighter ones. -/
def binary (finish : Mark) (level : Nat) (ts : List Token) :
    Parsing Rule ts.length :=
  match level with
  | 0 => negation finish ts
  | tighter + 1 => do
      let first ← binary finish tighter ts
      have := first.shorter
      let all ← binaryRest finish tighter (here finish ts) first.value first.last first.rest
      return all.widen first.shorter
termination_by 20 * ts.length + 5 + level

/-- The operations of level `tighter + 1` that go on from a left operand. -/
def binaryRest (finish : Mark) (tighter : Nat) (start : Span) (left : Rule)
    (last : Nat) (ts : List Token) : Parsing Rule (ts.length + 1) :=
  match ts with
  | ⟨.operator sign, written, span⟩ :: rest =>
      match binaryOp? (tighter + 1) sign with
      | some op => do
          let right ← binary finish tighter rest
          have := right.shorter
          let all ← binaryRest finish tighter start
            (op.node (through start right.last) left right.value) right.last right.rest
          return all.widen (by simp; omega)
      | none =>
          .ok ⟨left, last, ⟨.operator sign, written, span⟩ :: rest, by simp⟩
  | ts => .ok ⟨left, last, ts, by simp⟩
termination_by 20 * ts.length + 6 + tighter

/-- A negation, or an operation spelled as a keyword. -/
def negation (finish : Mark) (ts : List Token) : Parsing Rule ts.length :=
  match ts with
  | ⟨.operator .not, _, start⟩ :: rest => do
      let operand ← negation finish rest
      return (operand.map (.unary (through start operand.last) .not)).widen (by simp)
  | ts => keywordOperation finish ts
termination_by 20 * ts.length + 4

/-- At most one operator spelled as a keyword between two operands. -/
def keywordOperation (finish : Mark) (ts : List Token) :
    Parsing Rule ts.length := do
  let left ← signed finish ts
  have := left.shorter
  match next : left.rest with
  | ⟨.keyword k, _, span⟩ :: rest =>
      match keywordOp? k with
      | some op => do
          have : rest.length < left.rest.length := by simp [next]
          let right ← signed finish rest
          return (right.map (.keyword (through (here finish ts) right.last) op
            left.value)).widen (by omega)
      | none => return left
  | _ => return left
termination_by 20 * ts.length + 3

/-- An operand with any number of signs before it. -/
def signed (finish : Mark) (ts : List Token) : Parsing Rule ts.length :=
  match ts with
  | ⟨.operator sign, written, start⟩ :: rest =>
      match signOp? sign with
      | some op => do
          let operand ← signed finish rest
          return (operand.map (.unary (through start operand.last) op)).widen (by simp)
      | none => indexed finish (⟨.operator sign, written, start⟩ :: rest)
  | ts => indexed finish ts
termination_by 20 * ts.length + 2

/-- An operand with any number of positions in brackets after it. -/
def indexed (finish : Mark) (ts : List Token) : Parsing Rule ts.length := do
  let base ← primary finish ts
  have := base.shorter
  let all ← indexedRest finish (here finish ts) base.value base.last base.rest
  return all.widen (by omega)
termination_by 20 * ts.length + 1

/-- The positions that go on from a base. -/
def indexedRest (finish : Mark) (start : Span) (base : Rule) (last : Nat)
    (ts : List Token) : Parsing Rule (ts.length + 1) :=
  match ts with
  | ⟨.leftBracket, _, span⟩ :: rest => do
      let position ← assignment finish rest
      have := position.shorter
      let close ← expectRightBracket finish position.rest
      have := close.shorter
      let all ← indexedRest finish start
        (.index (through start close.last) base position.value) close.last close.rest
      return all.widen (by simp; omega)
  | ts => .ok ⟨base, last, ts, by simp⟩
termination_by 20 * ts.length

/-- A literal, a variable, a call, a list, or statements in parentheses. -/
def primary (finish : Mark) (ts : List Token) : Parsing Rule ts.length :=
  match ts with
  | ⟨.int n, _, span⟩ :: rest => .ok ⟨.literal span (.int n), span.stop, rest, Nat.lt_add_one _⟩
  | ⟨.float x, _, span⟩ :: rest =>
      .ok ⟨.literal span (.float x), span.stop, rest, Nat.lt_add_one _⟩
  | ⟨.text s, _, span⟩ :: rest => .ok ⟨.literal span (.text s), span.stop, rest, Nat.lt_add_one _⟩
  | ⟨.keyword k, written, span⟩ :: rest =>
      match keywordValue? k with
      | some value => .ok ⟨.literal span value, span.stop, rest, Nat.lt_add_one _⟩
      | none =>
          if (keywordOp? k).isSome then
            .error (unexpected finish (⟨.keyword k, written, span⟩ :: rest))
          else .error ⟨.unrecognisedKeyword k.word, span⟩
  | ⟨.name function, _, start⟩ :: ⟨.leftParen, _, span⟩ :: rest => do
      let args ←
        (match rest with
        | ⟨.rightParen, written, close⟩ :: following =>
            .ok ⟨[], span.stop, ⟨.rightParen, written, close⟩ :: following, Nat.lt_add_one _⟩
        | rest => return (← items finish rest).widen (Nat.le_add_right _ _)
          : Parsing (List Rule) (rest.length + 1))
      have := args.shorter
      let close ← expectRightParen finish args.rest
      have := close.shorter
      return ⟨.call (through start close.last) function args.value, close.last, close.rest,
        Nat.lt_add_right 1 (Nat.lt_trans close.shorter args.shorter)⟩
  | ⟨.name x, _, span⟩ :: rest => .ok ⟨.var span x, span.stop, rest, Nat.lt_add_one _⟩
  | ⟨.leftParen, _, start⟩ :: rest => do
      if rest matches ⟨.rightParen, _, _⟩ :: _ then throw (unexpected finish rest)
      let body ← statements finish true start.stop rest
      have := body.shorter
      let close ← expectRightParen finish body.rest
      have := close.shorter
      return ⟨block (here finish rest) body.last body.value, close.last, close.rest,
        Nat.lt_trans close.shorter body.shorter⟩
  | ⟨.leftBracket, _, start⟩ :: rest => do
      let members ←
        (match rest with
        | ⟨.rightBracket, written, close⟩ :: following =>
            .ok ⟨[], start.stop, ⟨.rightBracket, written, close⟩ :: following, Nat.lt_add_one _⟩
        | rest => return (← items finish rest).widen (Nat.le_add_right _ _)
          : Parsing (List Rule) (rest.length + 1))
      have := members.shorter
      let close ← expectRightBracket finish members.rest
      have := close.shorter
      return ⟨.list (through start close.last) members.value, close.last, close.rest,
        Nat.lt_trans close.shorter members.shorter⟩
  | ts => .error (unexpected finish ts)
termination_by 20 * ts.length

/-- One or more items with commas between them. -/
def items (finish : Mark) (ts : List Token) :
    Parsing (List Rule) ts.length := do
  let item ← assignment finish ts
  have := item.shorter
  match next : item.rest with
  | ⟨.comma, _, span⟩ :: rest => do
      have : rest.length < item.rest.length := by simp [next]
      let more ← items finish rest
      return (more.map (item.value :: ·)).widen (by omega)
  | _ => return item.map ([·])
termination_by 20 * ts.length + 15

end

end Parser

/-- Read tokens as one rule. -/
def Tokens.parse (ts : Tokens) : Except Finding Rule := do
  let body ← Parser.statements ts.finish false 0 ts.tokens
  if body.rest.isEmpty then
    return Parser.block (Parser.here ts.finish ts.tokens) body.last body.value
  else
    throw ⟨.unexpectedAtEnd (Parser.found body.rest).1 (Parser.found body.rest).2,
      Parser.here ts.finish body.rest⟩

/-- Read a rule text. -/
def Source.parse (s : Source) : Except Finding Rule := do
  (← s.tokens).parse

end EditGuard.Rule
