import EditGuard.Proofs.Rule.Grammar

/-!
# The equations of the parser

A result of the parser carries a bound on the tokens that are left, on which the recursion
runs.  Here the functions of the parser are described without it: what a function reads
first, and how it goes on with what is left.
-/

namespace EditGuard.Rule

/-- What was read: its value, the byte offset where it ends, and the tokens that follow. -/
structure Extent (α : Type) where
  value : α
  last : Nat
  rest : List Token

/-- A result without its bound. -/
def Parse.extent {α : Type} {n : Nat} (p : Parse α n) : Extent α :=
  ⟨p.value, p.last, p.rest⟩

namespace Parser

variable {α β : Type} {m n : Nat}

/-- An outcome of reading without its bound. -/
def outcome (x : Parsing α n) : Except Finding (Extent α) :=
  x.map Parse.extent

@[simp]
theorem outcome_ok (p : Parse α n) : outcome (.ok p) = .ok p.extent :=
  rfl

@[simp]
theorem outcome_pure (p : Parse α n) : outcome (pure p) = .ok p.extent :=
  rfl

@[simp]
theorem outcome_error (f : Finding) : outcome (.error f : Parsing α n) = .error f :=
  rfl

/-- Reading one thing after another, if the second does not depend on the bound. -/
theorem outcome_bind {x : Parsing α m} {f : Parse α m → Parsing β n}
    {g : Extent α → Except Finding (Extent β)} (next : ∀ p, outcome (f p) = g p.extent) :
    outcome (x >>= f) = outcome x >>= g := by
  cases x with
  | error e => rfl
  | ok p => exact next p

theorem outcome_widen (x : Parsing α m) (h : Parse α m → m ≤ n) :
    outcome (do let p ← x; return (p.widen (h p) : Parse α n)) = outcome x := by
  cases x <;> rfl

/-- What is left is shorter. -/
theorem length_lt_of_outcome {x : Parsing α n} {e : Extent α} (read : outcome x = .ok e) :
    e.rest.length < n := by
  cases x with
  | error f => cases read
  | ok p =>
      cases read
      exact p.shorter

/-! ## Single tokens -/

variable {finish : Mark}

theorem outcome_expectKeyword (k : Keyword) (written : String) (span : Span)
    (rest : List Token) :
    outcome (expectKeyword finish k (⟨.keyword k, written, span⟩ :: rest)) =
      .ok ⟨(), span.stop, rest⟩ := by
  simp only [expectKeyword, if_true]
  rfl

theorem eq_of_expectKeyword {k : Keyword} {ts : List Token} {e : Extent Unit}
    (read : outcome (expectKeyword finish k ts) = .ok e) :
    ∃ written span, ts = ⟨.keyword k, written, span⟩ :: e.rest ∧ e.last = span.stop := by
  unfold expectKeyword at read
  split at read
  · split at read
    · rename_i same
      cases read
      exact ⟨_, _, by rw [same]; rfl, rfl⟩
    · cases read
  · cases read

theorem eq_of_expectColon {ts : List Token} {e : Extent Unit}
    (read : outcome (expectColon finish ts) = .ok e) :
    ∃ written span, ts = ⟨.operator .colon, written, span⟩ :: e.rest ∧ e.last = span.stop := by
  unfold expectColon at read
  split at read
  · cases read
    exact ⟨_, _, rfl, rfl⟩
  · cases read

theorem eq_of_expectRightParen {ts : List Token} {e : Extent Unit}
    (read : outcome (expectRightParen finish ts) = .ok e) :
    ∃ written span, ts = ⟨.rightParen, written, span⟩ :: e.rest ∧ e.last = span.stop := by
  unfold expectRightParen at read
  split at read
  · cases read
    exact ⟨_, _, rfl, rfl⟩
  · cases read

theorem eq_of_expectRightBracket {ts : List Token} {e : Extent Unit}
    (read : outcome (expectRightBracket finish ts) = .ok e) :
    ∃ written span, ts = ⟨.rightBracket, written, span⟩ :: e.rest ∧ e.last = span.stop := by
  unfold expectRightBracket at read
  split at read
  · cases read
    exact ⟨_, _, rfl, rfl⟩
  · cases read

-- The equations are made here, once for all the proofs that rewrite with them.
attribute [local simp] statements assignment primary

/-! ## Statements and items -/

theorem outcome_statements_nil (enclosed : Bool) (last : Nat) :
    outcome (statements finish enclosed last []) = .ok ⟨[], last, []⟩ := by
  rw [statements]
  rfl

theorem outcome_statements_skip (enclosed : Bool) (last : Nat) (written : String) (span : Span)
    (ts : List Token) :
    outcome (statements finish enclosed last (⟨.semicolon, written, span⟩ :: ts)) =
      outcome (statements finish enclosed span.stop ts) := by
  rw [statements]
  exact outcome_widen _ _

theorem outcome_statements_close (last : Nat) (written : String) (span : Span)
    (ts : List Token) :
    outcome (statements finish true last (⟨.rightParen, written, span⟩ :: ts)) =
      .ok ⟨[], last, ⟨.rightParen, written, span⟩ :: ts⟩ := by
  rw [statements]
  · rfl
  · intro _ _ same
    cases same

/-- How statements go on after one of them. -/
def statementsAfter (finish : Mark) (enclosed : Bool) (first : Extent Rule) :
    Except Finding (Extent (List Rule)) :=
  match first.rest with
  | ⟨.semicolon, _, span⟩ :: following => do
      let more ← outcome (statements finish enclosed span.stop following)
      return ⟨first.value :: more.value, more.last, more.rest⟩
  | rest => return ⟨[first.value], first.last, rest⟩

theorem outcome_statements_cons {enclosed : Bool} (last : Nat) {t : Token} {ts : List Token}
    (starts : t.lexeme ≠ .semicolon) (goesOn : ¬ (enclosed = true ∧ t.lexeme = .rightParen)) :
    outcome (statements finish enclosed last (t :: ts)) =
      outcome (assignment finish (t :: ts)) >>= statementsAfter finish enclosed := by
  rcases t with ⟨lexeme, written, span⟩
  rw [statements]
  · rw [if_neg]
    · apply outcome_bind
      rintro ⟨value, last, rest, shorter⟩
      dsimp only [statementsAfter, Parse.extent]
      split
      · apply outcome_bind
        intro more
        rfl
      · rename_i other
        split
        · exact absurd rfl (other _ _ _)
        · rfl
    · intro closes
      apply goesOn
      rcases enclosed <;> cases lexeme <;> simp_all
  · rintro written span ⟨⟩
    exact starts rfl

/-- How items go on after one of them. -/
def itemsAfter (finish : Mark) (first : Extent Rule) : Except Finding (Extent (List Rule)) :=
  match first.rest with
  | ⟨.comma, _, _⟩ :: rest => do
      let more ← outcome (items finish rest)
      return ⟨first.value :: more.value, more.last, more.rest⟩
  | rest => return ⟨[first.value], first.last, rest⟩

theorem outcome_items (ts : List Token) :
    outcome (items finish ts) = outcome (assignment finish ts) >>= itemsAfter finish := by
  rw [items]
  apply outcome_bind
  rintro ⟨value, last, rest, shorter⟩
  dsimp only [itemsAfter, Parse.extent]
  split
  · apply outcome_bind
    intro more
    rfl
  · rename_i other
    split
    · exact absurd rfl (other _ _ _)
    · rfl

/-! ## Assignments -/

theorem outcome_assign (x written : String) (start : Span) (sign : String) (span : Span)
    (rest : List Token) :
    outcome (assignment finish
        (⟨.name x, written, start⟩ :: ⟨.operator .assign, sign, span⟩ :: rest)) = (do
      let value ← outcome (assignment finish rest)
      return ⟨.assign (through start value.last) x value.value, value.last, value.rest⟩) := by
  rw [assignment]
  apply outcome_bind
  intro value
  rfl

theorem outcome_append (x written : String) (start : Span) (opening : String)
    (openingSpan : Span) (closing : String) (closingSpan : Span) (sign : String) (span : Span)
    (rest : List Token) :
    outcome (assignment finish
        (⟨.name x, written, start⟩ :: ⟨.leftBracket, opening, openingSpan⟩ ::
          ⟨.rightBracket, closing, closingSpan⟩ :: ⟨.operator .assign, sign, span⟩ ::
            rest)) = (do
      let value ← outcome (assignment finish rest)
      return ⟨.indexAssign (through start value.last) x none value.value, value.last,
        value.rest⟩) := by
  rw [assignment]
  apply outcome_bind
  intro value
  rfl

/-- A closing bracket and the sign of an assignment stand at the head of the tokens. -/
def ClosesTarget (ts : List Token) : Prop :=
  ∃ closing closingSpan sign span rest,
    ts = ⟨.rightBracket, closing, closingSpan⟩ :: ⟨.operator .assign, sign, span⟩ :: rest

theorem outcome_assignItem {rest following : List Token} {position : Rule} {last : Nat}
    {closing sign : String} {closingSpan signSpan : Span} (hasPosition : ¬ ClosesTarget rest)
    (read : outcome (assignment finish rest) =
      .ok ⟨position, last, ⟨.rightBracket, closing, closingSpan⟩ ::
        ⟨.operator .assign, sign, signSpan⟩ :: following⟩)
    (x written : String) (start : Span) (opening : String) (span : Span) :
    outcome (assignment finish
        (⟨.name x, written, start⟩ :: ⟨.leftBracket, opening, span⟩ :: rest)) = (do
      let value ← outcome (assignment finish following)
      return ⟨.indexAssign (through start value.last) x (some position) value.value,
        value.last, value.rest⟩) := by
  rw [assignment]
  · cases ended : assignment finish rest with
    | error f =>
        rw [ended] at read
        cases read
    | ok p =>
        rcases p with ⟨found, foundLast, foundRest, shorter⟩
        rw [ended] at read
        cases read
        apply outcome_bind
        intro value
        rfl
  · rintro _ _ _ _ _ rfl
    exact hasPosition ⟨_, _, _, _, _, rfl⟩

/-- What begins with a name and an opening bracket is a conditional if no assignment to an
item can be read. -/
theorem outcome_bracket {rest : List Token} (hasPosition : ¬ ClosesTarget rest)
    (noTarget : ∀ position last ts,
      outcome (assignment finish rest) = .ok ⟨position, last, ts⟩ → ¬ ClosesTarget ts)
    (x written : String) (start : Span) (opening : String) (span : Span) :
    outcome (assignment finish
        (⟨.name x, written, start⟩ :: ⟨.leftBracket, opening, span⟩ :: rest)) =
      outcome (conditional finish
        (⟨.name x, written, start⟩ :: ⟨.leftBracket, opening, span⟩ :: rest)) := by
  rw [assignment]
  · cases ended : assignment finish rest with
    | error f => rfl
    | ok p =>
        rcases p with ⟨position, last, ts, shorter⟩
        rw [ended] at noTarget
        have goesOn := noTarget position last ts rfl
        dsimp only
        split
        · exact absurd ⟨_, _, _, _, _, rfl⟩ goesOn
        · rfl
  · rintro _ _ _ _ _ rfl
    exact hasPosition ⟨_, _, _, _, _, rfl⟩

/-- The tokens do not begin like an assignment. -/
theorem outcome_unassigned {ts : List Token}
    (notName : ∀ x written start sign span rest,
      ts ≠ ⟨.name x, written, start⟩ :: ⟨.operator .assign, sign, span⟩ :: rest)
    (notItem : ∀ x written start opening span rest,
      ts ≠ ⟨.name x, written, start⟩ :: ⟨.leftBracket, opening, span⟩ :: rest) :
    outcome (assignment finish ts) = outcome (conditional finish ts) := by
  rw [assignment]
  · rintro _ _ _ _ _ _ rfl
    exact notName _ _ _ _ _ _ rfl
  · rintro _ _ _ _ _ _ _ _ _ _ rfl
    exact notItem _ _ _ _ _ _ rfl
  · rintro _ _ _ _ _ _ rfl
    exact notItem _ _ _ _ _ _ rfl

/-! ## Conditionals -/

/-- How a conditional with `if` goes on after its first branch. -/
def branchAfter (finish : Mark) (start : Span) (condition : Rule) (yes : Extent Rule) :
    Except Finding (Extent Rule) :=
  match yes.rest with
  | ⟨.keyword .elseBranch, _, _⟩ :: rest => do
      let no ← outcome (assignment finish rest)
      let close ← outcome (expectKeyword finish .endIf no.rest)
      return ⟨.conditional (through start close.last) condition yes.value (some no.value),
        close.last, close.rest⟩
  | rest => do
      let close ← outcome (expectKeyword finish .endIf rest)
      return ⟨.conditional (through start close.last) condition yes.value none, close.last,
        close.rest⟩

theorem outcome_if (written : String) (start : Span) (rest : List Token) :
    outcome (conditional finish (⟨.keyword .ifThen, written, start⟩ :: rest)) = (do
      let condition ← outcome (binary finish loosest rest)
      let word ← outcome (expectKeyword finish .thenBranch condition.rest)
      let yes ← outcome (assignment finish word.rest)
      branchAfter finish start condition.value yes) := by
  rw [conditional]
  apply outcome_bind
  intro condition
  apply outcome_bind
  intro word
  apply outcome_bind
  rintro ⟨value, last, rest, shorter⟩
  dsimp only [branchAfter, Parse.extent]
  split
  · apply outcome_bind
    intro no
    apply outcome_bind
    intro close
    rfl
  · rename_i other
    split
    · exact absurd rfl (other _ _ _)
    · apply outcome_bind
      intro close
      rfl

/-- How a conditional goes on after a binary operation. -/
def choiceAfter (finish : Mark) (start : Span) (condition : Extent Rule) :
    Except Finding (Extent Rule) :=
  match condition.rest with
  | ⟨.operator .question, _, _⟩ :: rest => do
      let yes ← outcome (conditional finish rest)
      let colon ← outcome (expectColon finish yes.rest)
      let no ← outcome (conditional finish colon.rest)
      return ⟨.conditional (through start no.last) condition.value yes.value (some no.value),
        no.last, no.rest⟩
  | _ => return condition

theorem outcome_conditional {ts : List Token}
    (notIf : ∀ written start rest, ts ≠ ⟨.keyword .ifThen, written, start⟩ :: rest) :
    outcome (conditional finish ts) =
      outcome (binary finish loosest ts) >>= choiceAfter finish (here finish ts) := by
  rw [conditional]
  · apply outcome_bind
    rintro ⟨value, last, rest, shorter⟩
    dsimp only [choiceAfter, Parse.extent]
    split
    · apply outcome_bind
      intro yes
      apply outcome_bind
      intro colon
      apply outcome_bind
      intro no
      rfl
    · rename_i other
      split
      · exact absurd rfl (other _ _ _)
      · rfl
  · rintro _ _ _ rfl
    exact notIf _ _ _ rfl

/-! ## Binary operations -/

theorem outcome_binary_zero (ts : List Token) :
    outcome (binary finish 0 ts) = outcome (negation finish ts) := by
  rw [binary]

theorem outcome_binary_succ (tighter : Nat) (ts : List Token) :
    outcome (binary finish (tighter + 1) ts) = (do
      let first ← outcome (binary finish tighter ts)
      outcome (binaryRest finish tighter (here finish ts) first.value first.last
        first.rest)) := by
  rw [binary]
  apply outcome_bind
  intro first
  exact outcome_widen _ _

/-- No operator of a level stands at the head of the tokens. -/
def EndsOperation (level : Nat) (ts : List Token) : Prop :=
  ∀ sign written span rest, ts = ⟨.operator sign, written, span⟩ :: rest →
    binaryOp? level sign = none

theorem outcome_binaryRest_end {tighter : Nat} {ts : List Token}
    (ends : EndsOperation (tighter + 1) ts) (start : Span) (left : Rule) (last : Nat) :
    outcome (binaryRest finish tighter start left last ts) = .ok ⟨left, last, ts⟩ := by
  rw [binaryRest.eq_def]
  split
  · rw [ends _ _ _ _ rfl]
    rfl
  · rfl

theorem outcome_binaryRest_sign {tighter : Nat} {sign : Operator} {op : BinaryOp}
    (joins : binaryOp? (tighter + 1) sign = some op) (start : Span) (left : Rule) (last : Nat)
    (written : String) (span : Span) (rest : List Token) :
    outcome (binaryRest finish tighter start left last
        (⟨.operator sign, written, span⟩ :: rest)) = (do
      let right ← outcome (binary finish tighter rest)
      outcome (binaryRest finish tighter start
        (op.node (through start right.last) left right.value) right.last right.rest)) := by
  rw [binaryRest]
  simp only [joins]
  apply outcome_bind
  intro right
  exact outcome_widen _ _

/-! ## Operands -/

theorem outcome_not (written : String) (start : Span) (rest : List Token) :
    outcome (negation finish (⟨.operator .not, written, start⟩ :: rest)) = (do
      let operand ← outcome (negation finish rest)
      return ⟨.unary (through start operand.last) .not operand.value, operand.last,
        operand.rest⟩) := by
  rw [negation]
  apply outcome_bind
  intro operand
  rfl

theorem outcome_affirmed {ts : List Token}
    (notNegated : ∀ written start rest, ts ≠ ⟨.operator .not, written, start⟩ :: rest) :
    outcome (negation finish ts) = outcome (keywordOperation finish ts) := by
  rw [negation]
  rintro _ _ _ rfl
  exact notNegated _ _ _ rfl

/-- How a keyword operation goes on after its left operand. -/
def keywordAfter (finish : Mark) (start : Span) (left : Extent Rule) :
    Except Finding (Extent Rule) :=
  match left.rest with
  | ⟨.keyword k, _, _⟩ :: rest =>
      match keywordOp? k with
      | some op => do
          let right ← outcome (signed finish rest)
          return ⟨.keyword (through start right.last) op left.value right.value, right.last,
            right.rest⟩
      | none => return left
  | _ => return left

theorem outcome_keywordOperation (ts : List Token) :
    outcome (keywordOperation finish ts) =
      outcome (signed finish ts) >>= keywordAfter finish (here finish ts) := by
  rw [keywordOperation]
  apply outcome_bind
  rintro ⟨value, last, rest, shorter⟩
  dsimp only [keywordAfter, Parse.extent]
  split
  · split
    · rename_i found
      simp only [found]
      apply outcome_bind
      intro right
      rfl
    · rename_i found
      simp only [found]
      rfl
  · rename_i other
    split
    · exact absurd rfl (other _ _ _ _)
    · rfl

theorem outcome_sign {sign : Operator} {op : UnaryOp} (signs : signOp? sign = some op)
    (written : String) (start : Span) (rest : List Token) :
    outcome (signed finish (⟨.operator sign, written, start⟩ :: rest)) = (do
      let operand ← outcome (signed finish rest)
      return ⟨.unary (through start operand.last) op operand.value, operand.last,
        operand.rest⟩) := by
  rw [signed]
  simp only [signs]
  apply outcome_bind
  intro operand
  rfl

theorem outcome_unsigned {ts : List Token}
    (notSigned : ∀ sign written start rest, ts = ⟨.operator sign, written, start⟩ :: rest →
      signOp? sign = none) :
    outcome (signed finish ts) = outcome (indexed finish ts) := by
  rw [signed.eq_def]
  split
  · rw [notSigned _ _ _ _ rfl]
  · rfl

theorem outcome_indexed (ts : List Token) :
    outcome (indexed finish ts) = (do
      let base ← outcome (primary finish ts)
      outcome (indexedRest finish (here finish ts) base.value base.last base.rest)) := by
  rw [indexed]
  apply outcome_bind
  intro base
  exact outcome_widen _ _

theorem outcome_indexedRest_end {ts : List Token}
    (ends : ∀ written span rest, ts ≠ ⟨.leftBracket, written, span⟩ :: rest) (start : Span)
    (base : Rule) (last : Nat) :
    outcome (indexedRest finish start base last ts) = .ok ⟨base, last, ts⟩ := by
  rw [indexedRest]
  · rfl
  · rintro _ _ _ rfl
    exact ends _ _ _ rfl

theorem outcome_indexedRest_bracket (start : Span) (base : Rule) (last : Nat)
    (written : String) (span : Span) (rest : List Token) :
    outcome (indexedRest finish start base last (⟨.leftBracket, written, span⟩ :: rest)) = (do
      let position ← outcome (assignment finish rest)
      let close ← outcome (expectRightBracket finish position.rest)
      outcome (indexedRest finish start
        (.index (through start close.last) base position.value) close.last close.rest)) := by
  rw [indexedRest]
  apply outcome_bind
  intro position
  apply outcome_bind
  intro close
  exact outcome_widen _ _

/-! ## Primaries -/

theorem outcome_literal {w : Lexeme} {v : Value} (literal : Grammar.Literal w v)
    (written : String) (span : Span) (rest : List Token) :
    outcome (primary finish (⟨w, written, span⟩ :: rest)) =
      .ok ⟨.literal span v, span.stop, rest⟩ := by
  cases literal <;> rw [primary] <;> rfl

theorem outcome_var {rest : List Token}
    (notCall : ∀ written span following, rest ≠ ⟨.leftParen, written, span⟩ :: following)
    (x written : String) (span : Span) :
    outcome (primary finish (⟨.name x, written, span⟩ :: rest)) =
      .ok ⟨.var span x, span.stop, rest⟩ := by
  rw [primary]
  · rfl
  · rintro _ _ _ rfl
    exact notCall _ _ _ rfl

theorem outcome_callNothing (f written : String) (start : Span) (opening : String)
    (openingSpan : Span) (closing : String) (span : Span) (rest : List Token) :
    outcome (primary finish
        (⟨.name f, written, start⟩ :: ⟨.leftParen, opening, openingSpan⟩ ::
          ⟨.rightParen, closing, span⟩ :: rest)) =
      .ok ⟨.call (through start span.stop) f [], span.stop, rest⟩ := by
  rw [primary]
  rfl

theorem outcome_call {rest : List Token}
    (notEmpty : ∀ written span following, rest ≠ ⟨.rightParen, written, span⟩ :: following)
    (f written : String) (start : Span) (opening : String) (span : Span) :
    outcome (primary finish
        (⟨.name f, written, start⟩ :: ⟨.leftParen, opening, span⟩ :: rest)) = (do
      let args ← outcome (items finish rest)
      let close ← outcome (expectRightParen finish args.rest)
      return ⟨.call (through start close.last) f args.value, close.last, close.rest⟩) := by
  rw [primary]
  · rw [← outcome_widen (items finish rest) fun _ => Nat.le_add_right _ 1]
    apply outcome_bind
    intro args
    apply outcome_bind
    intro close
    rfl
  · rintro _ _ _ rfl
    exact notEmpty _ _ _ rfl

theorem outcome_emptyList (opening : String) (start : Span) (closing : String) (span : Span)
    (rest : List Token) :
    outcome (primary finish
        (⟨.leftBracket, opening, start⟩ :: ⟨.rightBracket, closing, span⟩ :: rest)) =
      .ok ⟨.list (through start span.stop) [], span.stop, rest⟩ := by
  rw [primary]
  rfl

theorem outcome_list {rest : List Token}
    (notEmpty : ∀ written span following, rest ≠ ⟨.rightBracket, written, span⟩ :: following)
    (written : String) (start : Span) :
    outcome (primary finish (⟨.leftBracket, written, start⟩ :: rest)) = (do
      let members ← outcome (items finish rest)
      let close ← outcome (expectRightBracket finish members.rest)
      return ⟨.list (through start close.last) members.value, close.last, close.rest⟩) := by
  rw [primary]
  · rw [← outcome_widen (items finish rest) fun _ => Nat.le_add_right _ 1]
    apply outcome_bind
    intro members
    apply outcome_bind
    intro close
    rfl
  · rintro _ _ _ rfl
    exact notEmpty _ _ _ rfl

theorem outcome_parentheses {rest : List Token}
    (notEmpty : ∀ written span following, rest ≠ ⟨.rightParen, written, span⟩ :: following)
    (written : String) (start : Span) :
    outcome (primary finish (⟨.leftParen, written, start⟩ :: rest)) = (do
      let body ← outcome (statements finish true start.stop rest)
      let close ← outcome (expectRightParen finish body.rest)
      return ⟨block (here finish rest) body.last body.value, close.last, close.rest⟩) := by
  rw [primary]
  · simp only [Bool.false_eq_true, if_false]
    apply outcome_bind
    intro body
    apply outcome_bind
    intro close
    rfl
  · rintro _ _ _ _ rfl
    exact absurd rfl (notEmpty _ _ _)

end Parser

end EditGuard.Rule
