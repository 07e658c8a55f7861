import EditGuard.Proofs.Rule.Checking
import EditGuard.Proofs.Rule.Equations

/-!
# Productions and the tokens they take

A node of a rule is made by one production of the grammar from a stretch of tokens;
parentheses around the node are not part of it.  Here expressions are laid out over a row of
tokens, one behind the other: each takes the tokens of its production, and its operands are
laid out over these in the same way.
-/

namespace EditGuard.Rule

/-- The lexemes of tokens. -/
def lexemes (ts : List Token) : List Lexeme :=
  ts.map Token.lexeme

@[simp]
theorem lexemes_nil : lexemes [] = [] :=
  rfl

@[simp]
theorem lexemes_cons (t : Token) (ts : List Token) :
    lexemes (t :: ts) = t.lexeme :: lexemes ts :=
  rfl

namespace Grammar

/-! ## Productions -/

/-- The lexemes of a row up to a rest of it derive a tree by a production that makes its
root, as against those that pass on what they derive. -/
inductive Builds : Category → List Lexeme → List Lexeme → Tree → Prop
  | assign {x ws rest e} (value : Derives .assignment ws rest e) :
      Builds .assignment (.name x :: .operator .assign :: ws) rest (.assign () x e)
  | append {x ws rest e} (value : Derives .assignment ws rest e) :
      Builds .assignment
        (.name x :: .leftBracket :: .rightBracket :: .operator .assign :: ws) rest
        (.indexAssign () x none e)
  | assignItem {x ws vs rest i e}
      (position : Derives .assignment ws (.rightBracket :: .operator .assign :: vs) i)
      (value : Derives .assignment vs rest e) :
      Builds .assignment (.name x :: .leftBracket :: ws) rest (.indexAssign () x (some i) e)
  | ifThen {ws us rest c y}
      (condition : Derives (.operation .disjunction) ws (.keyword .thenBranch :: us) c)
      (yes : Derives .assignment us (.keyword .endIf :: rest) y) :
      Builds .conditional (.keyword .ifThen :: ws) rest (.conditional () c y none)
  | ifThenElse {ws us vs rest c y n}
      (condition : Derives (.operation .disjunction) ws (.keyword .thenBranch :: us) c)
      (yes : Derives .assignment us (.keyword .elseBranch :: vs) y)
      (no : Derives .assignment vs (.keyword .endIf :: rest) n) :
      Builds .conditional (.keyword .ifThen :: ws) rest (.conditional () c y (some n))
  | choice {ws us vs rest c y n}
      (condition : Derives (.operation .disjunction) ws (.operator .question :: us) c)
      (yes : Derives .conditional us (.operator .colon :: vs) y)
      (no : Derives .conditional vs rest n) :
      Builds .conditional ws rest (.conditional () c y (some n))
  | operation {level : Level} {sign op ws vs rest l r} (joins : Joins level sign op)
      (left : Derives (.operation level) ws (.operator sign :: vs) l)
      (right : Derives level.operand vs rest r) :
      Builds (.operation level) ws rest (node op l r)
  | not {ws rest e} (operand : Derives .negation ws rest e) :
      Builds .negation (.operator .not :: ws) rest (.unary () .not e)
  | keyword {k op ws vs rest l r} (relates : Relates k op)
      (left : Derives .signed ws (.keyword k :: vs) l) (right : Derives .signed vs rest r) :
      Builds .keyword ws rest (.keyword () op l r)
  | sign {sign op ws rest e} (signs : Signs sign op) (operand : Derives .signed ws rest e) :
      Builds .signed (.operator sign :: ws) rest (.unary () op e)
  | index {ws vs rest e i} (base : Derives .indexed ws (.leftBracket :: vs) e)
      (position : Derives .assignment vs (.rightBracket :: rest) i) :
      Builds .indexed ws rest (.index () e i)
  | literal {w rest v} (literal : Literal w v) : Builds .primary (w :: rest) rest (.literal () v)
  | callNothing {f rest} :
      Builds .primary (.name f :: .leftParen :: .rightParen :: rest) rest (.call () f [])
  | call {f ws rest es} (args : DerivesItems ws (.rightParen :: rest) es) :
      Builds .primary (.name f :: .leftParen :: ws) rest (.call () f es)
  | var {x rest} (notCall : rest.head? ≠ some .leftParen) :
      Builds .primary (.name x :: rest) rest (.var () x)
  | emptyList {rest} :
      Builds .primary (.leftBracket :: .rightBracket :: rest) rest (.list () [])
  | list {ws rest es} (members : DerivesItems ws (.rightBracket :: rest) es) :
      Builds .primary (.leftBracket :: ws) rest (.list () es)

theorem Builds.derives {c : Category} {ws rest : List Lexeme} {e : Tree}
    (builds : Builds c ws rest e) : Derives c ws rest e := by
  cases builds with
  | assign value => exact .assign value
  | append value => exact .append value
  | assignItem position value => exact .assignItem position value
  | ifThen condition yes => exact .ifThen condition yes
  | ifThenElse condition yes no => exact .ifThenElse condition yes no
  | choice condition yes no => exact .choice condition yes no
  | operation joins left right => exact .operation joins left right
  | not operand => exact .not operand
  | keyword relates left right => exact .keyword relates left right
  | sign signs operand => exact .sign signs operand
  | index base position => exact .index base position
  | literal literal => exact .literal literal
  | callNothing => exact .callNothing
  | call args => exact .call args
  | var notCall => exact .var notCall
  | emptyList => exact .emptyList
  | list members => exact .list members

/-- The lexemes of a row up to a rest of it make the root of a tree: an expression, or
statements, of which there is not just one. -/
inductive Produces : List Lexeme → List Lexeme → Tree → Prop
  | expression {c ws rest e} (builds : Builds c ws rest e) : Produces ws rest e
  | statements {ws rest es} (body : DerivesStatements ws rest es) (several : es.length ≠ 1) :
      Produces ws rest (.sequence () es)

end Grammar

open Grammar

/-! ## Stretches of tokens -/

/-- Some tokens, at least one, are taken up to a rest, and the last one ends at a place. -/
def EndsAt (ts rest : List Token) (last : Nat) : Prop :=
  ∃ taken t, ts = taken ++ t :: rest ∧ t.span.stop = last

namespace EndsAt

variable {ts us rest : List Token} {last middle : Nat}

theorem single (t : Token) (rest : List Token) : EndsAt (t :: rest) rest t.span.stop :=
  ⟨[], t, rfl, rfl⟩

theorem trans (first : EndsAt ts us middle) (second : EndsAt us rest last) :
    EndsAt ts rest last := by
  obtain ⟨before, s, rfl, -⟩ := first
  obtain ⟨taken, t, rfl, stop⟩ := second
  exact ⟨before ++ s :: taken, t, by simp, stop⟩

theorem cons (ends : EndsAt ts rest last) (t : Token) : EndsAt (t :: ts) rest last :=
  (single t ts).trans ends

theorem suffix (ends : EndsAt ts rest last) : rest <:+ ts := by
  obtain ⟨taken, t, rfl, -⟩ := ends
  exact (List.suffix_cons t rest).trans (List.suffix_append taken _)

end EndsAt

/-- A stretch of the rule begins with the first of some tokens and ends with the last one that
is taken of them. -/
def Spanned (ts rest : List Token) (span : Span) : Prop :=
  ∃ first more last, ts = first :: more ∧ EndsAt ts rest last ∧
    span = Parser.through first.span last

theorem EndsAt.spanned {ts rest : List Token} {last : Nat} (ends : EndsAt ts rest last)
    (finish : Mark) : Spanned ts rest (Parser.through (Parser.here finish ts) last) := by
  obtain ⟨first, more, rfl⟩ : ∃ first more, ts = first :: more := by
    obtain ⟨_ | ⟨first, taken⟩, t, rfl, -⟩ := ends
    · exact ⟨t, rest, rfl⟩
    · exact ⟨first, _, rfl⟩
  exact ⟨first, more, last, rfl, ends, rfl⟩

/-! ## Expressions over tokens -/

/-- Expressions lie one behind the other over tokens up to a rest of them.  What is passed
between them belongs to none; a node takes all tokens over which its operands lie, and is
made of these by its production. -/
inductive Laid : List Token → List Token → List Rule → Prop
  | nothing {ts} : Laid ts ts []
  | pass {ts t rest es} (before : Laid ts (t :: rest) es) : Laid ts rest es
  | append {ts us rest es ds} (first : Laid ts us es) (second : Laid us rest ds) :
      Laid ts rest (es ++ ds)
  | node {ts rest e} (operands : Laid ts rest e.operands)
      (produces : Produces (lexemes ts) (lexemes rest) (tree e))
      (spanned : Spanned ts rest e.mark) : Laid ts rest [e]

namespace Laid

variable {ts us rest : List Token} {es : List Rule}

/-- A token before them is passed. -/
theorem cons (laid : Laid ts rest es) (t : Token) : Laid (t :: ts) rest es :=
  nothing.pass.append laid

theorem suffix (laid : Laid ts rest es) : rest <:+ ts := by
  induction laid with
  | nothing => exact List.suffix_refl _
  | pass _ ih => exact (List.suffix_cons _ _).trans ih
  | append _ _ first second => exact second.trans first
  | node _ _ _ ih => exact ih

end Laid

end EditGuard.Rule
