import EditGuard.Proofs.Rule.Soundness

/-!
# What is derived is read by the parser

The parser takes as many tokens as it can, so it reads a derived expression up to the end
of its lexemes only if none of the lexemes that follow can go on with it.  Lexemes and
categories have ranks: an expression of a category may be followed by the lexemes of a
larger rank.  For the left recursive categories the statement is stronger, since there the
left operand is read by a call that goes on.
-/

namespace EditGuard.Rule

open Grammar

/-! ## What may follow -/

/-- The rank of a lexeme after an expression: the rank of the tightest category that it
goes on with, and a larger one for separators and for what ends an expression. -/
def Lexeme.rank : Lexeme → Nat
  | .leftBracket => 1
  | .keyword k => if (Parser.keywordOp? k).isSome then 2 else 14
  | .operator .power => 3
  | .operator .times | .operator .divide | .operator .modulo => 4
  | .operator .plus | .operator .minus => 5
  | .operator .lt | .operator .le | .operator .gt | .operator .ge => 6
  | .operator .eq | .operator .equals | .operator .ne => 7
  | .operator .strictEq | .operator .strictNe => 7
  | .operator .and => 8
  | .operator .or | .operator .xor => 9
  | .operator .question => 10
  | .operator .assign => 11
  | .comma => 12
  | .semicolon => 13
  | _ => 14

/-- The largest rank of the lexemes that go on with an expression of a category. -/
def Grammar.Category.rank : Category → Nat
  | .primary => 0
  | .indexed | .signed => 1
  | .keyword | .negation => 2
  | .operation l => l.tighter + 3
  | .conditional => 10
  | .assignment => 11

/-- The lexeme at the head of a row, if there is one, has a larger rank. -/
def Stops (rank : Nat) (rest : List Lexeme) : Prop :=
  ∀ w ∈ rest.head?, rank < w.rank

theorem stops_cons {rank : Nat} {w : Lexeme} {rest : List Lexeme} :
    Stops rank (w :: rest) ↔ rank < w.rank := by
  constructor
  · intro stops
    exact stops w rfl
  · rintro larger _ ⟨⟩
    exact larger

theorem Stops.mono {m n : Nat} {rest : List Lexeme} (stops : Stops n rest) (le : m ≤ n) :
    Stops m rest :=
  fun w member => Nat.lt_of_le_of_lt le (stops w member)

theorem stops_zero (rest : List Lexeme) : Stops 0 rest := by
  intro w member
  cases w with
  | keyword k =>
      rw [Lexeme.rank]
      split <;> decide
  | operator sign => cases sign <;> decide
  | _ => exact Nat.zero_lt_succ _

theorem Grammar.Joins.rank {l : Level} {sign : Operator} {op : Parser.BinaryOp}
    (joins : Joins l sign op) : (Lexeme.operator sign).rank = l.tighter + 3 := by
  cases joins <;> rfl

theorem Grammar.Relates.rank {k : Keyword} {op : KeywordOp} (relates : Relates k op) :
    (Lexeme.keyword k).rank = 2 := by
  cases relates <;> rfl

theorem Grammar.Level.rank_operand (l : Level) : l.operand.rank = l.tighter + 2 := by
  cases l <;> rfl

namespace Parser

variable {finish : Mark}

/-! ## Outcomes up to places -/

/-- Tokens whose lexemes begin with one begin with a token of that lexeme. -/
theorem exists_of_lexemes_eq_cons {ts : List Token} {w : Lexeme} {ws : List Lexeme}
    (same : lexemes ts = w :: ws) :
    ∃ written span us, ts = ⟨w, written, span⟩ :: us ∧ lexemes us = ws := by
  rcases ts with _ | ⟨⟨lexeme, written, span⟩, us⟩
  · cases same
  · cases same
    exact ⟨written, span, us, rfl, rfl⟩

theorem eq_nil_of_lexemes {ts : List Token} (same : lexemes ts = []) : ts = [] :=
  List.map_eq_nil_iff.mp same

/-- Something was read up to a rest, and is of a form. -/
def Gives {α β : Type} (form : α → β) (x : Except Finding (Extent α)) (rest : List Lexeme)
    (b : β) : Prop :=
  ∃ p : Extent α, x = .ok p ∧ lexemes p.rest = rest ∧ form p.value = b

theorem gives_ok {α β : Type} {form : α → β} (p : Extent α) :
    Gives form (.ok p) (lexemes p.rest) (form p.value) :=
  ⟨p, rfl, rfl, rfl⟩

theorem Gives.bind {α β γ δ : Type} {form : α → β} {x : Except Finding (Extent α)}
    {us : List Lexeme} {b : β} {shape : γ → δ} {next : Extent α → Except Finding (Extent γ)}
    {rest : List Lexeme} {d : δ} (first : Gives form x us b)
    (second : ∀ p, lexemes p.rest = us → form p.value = b → Gives shape (next p) rest d) :
    Gives shape (x >>= next) rest d := by
  obtain ⟨p, rfl, restSame, valueSame⟩ := first
  exact second p restSame valueSame

/-- What fails gives nothing. -/
theorem Gives.not_error {α β : Type} {form : α → β} {x : Except Finding (Extent α)}
    {rest : List Lexeme} {b : β} (gives : Gives form x rest b) (f : Finding) : x ≠ .error f := by
  obtain ⟨p, rfl, -⟩ := gives
  intro fails
  cases fails

/-- An expression of a category with a tree is read from tokens, up to a rest. -/
def Reads (finish : Mark) (c : Category) (ts : List Token) (rest : List Lexeme) (e : Tree) :
    Prop :=
  Gives tree (read finish c ts) rest e

theorem gives_expectKeyword {k : Keyword} {ts : List Token} {rest : List Lexeme}
    (same : lexemes ts = .keyword k :: rest) :
    Gives id (outcome (expectKeyword finish k ts)) rest () := by
  obtain ⟨written, span, us, rfl, rfl⟩ := exists_of_lexemes_eq_cons same
  rw [outcome_expectKeyword]
  exact gives_ok _

theorem gives_expectColon {ts : List Token} {rest : List Lexeme}
    (same : lexemes ts = .operator .colon :: rest) :
    Gives id (outcome (expectColon finish ts)) rest () := by
  obtain ⟨written, span, us, rfl, rfl⟩ := exists_of_lexemes_eq_cons same
  exact gives_ok _

theorem gives_expectRightParen {ts : List Token} {rest : List Lexeme}
    (same : lexemes ts = .rightParen :: rest) :
    Gives id (outcome (expectRightParen finish ts)) rest () := by
  obtain ⟨written, span, us, rfl, rfl⟩ := exists_of_lexemes_eq_cons same
  exact gives_ok _

theorem gives_expectRightBracket {ts : List Token} {rest : List Lexeme}
    (same : lexemes ts = .rightBracket :: rest) :
    Gives id (outcome (expectRightBracket finish ts)) rest () := by
  obtain ⟨written, span, us, rfl, rfl⟩ := exists_of_lexemes_eq_cons same
  exact gives_ok _

/-! ## Heads with which nothing begins -/

/-- A lexeme begins a primary. -/
def BeginsPrimary (w : Lexeme) : Prop :=
  (∃ v, Literal w v) ∨ (∃ x, w = .name x) ∨ w = .leftParen ∨ w = .leftBracket

/-- A lexeme is a sign of an operand. -/
def IsSign (w : Lexeme) : Prop :=
  ∃ sign op, w = .operator sign ∧ signOp? sign = some op

section Heads

variable {w : Lexeme} {written : String} {span : Span} {ts : List Token}

theorem indexed_error (notPrimary : ¬ BeginsPrimary w) (finish : Mark) (written : String)
    (span : Span) (ts : List Token) :
    ∃ f, outcome (indexed finish (⟨w, written, span⟩ :: ts)) = .error f := by
  simp only [BeginsPrimary, not_or, not_exists] at notPrimary
  obtain ⟨noLiteral, noName, noParen, noBracket⟩ := notPrimary
  obtain ⟨f, fails⟩ :=
    outcome_primary_error finish noLiteral noName noParen noBracket written span ts
  exact ⟨f, by rw [outcome_indexed, fails]; rfl⟩

theorem keyword_error (notSign : ¬ IsSign w) {f : Finding}
    (fails : outcome (indexed finish (⟨w, written, span⟩ :: ts)) = .error f) :
    outcome (keywordOperation finish (⟨w, written, span⟩ :: ts)) = .error f := by
  rw [outcome_keywordOperation, outcome_unsigned, fails]
  · rfl
  · rintro sign _ _ _ ⟨⟩
    apply Option.eq_none_iff_forall_ne_some.mpr
    intro op signs
    exact notSign ⟨sign, op, rfl, signs⟩

theorem binary_error (notSign : ¬ IsSign w) (notNot : w ≠ .operator .not) {f : Finding}
    (fails : outcome (indexed finish (⟨w, written, span⟩ :: ts)) = .error f) (level : Nat) :
    outcome (binary finish level (⟨w, written, span⟩ :: ts)) = .error f := by
  induction level with
  | zero =>
      rw [outcome_binary_zero, outcome_affirmed, keyword_error notSign fails]
      rintro _ _ _ ⟨⟩
      exact notNot rfl
  | succ tighter ih =>
      rw [outcome_binary_succ, ih]
      rfl

theorem conditional_error (notSign : ¬ IsSign w) (notNot : w ≠ .operator .not)
    (notIf : w ≠ .keyword .ifThen) {f : Finding}
    (fails : outcome (indexed finish (⟨w, written, span⟩ :: ts)) = .error f) :
    outcome (conditional finish (⟨w, written, span⟩ :: ts)) = .error f := by
  rw [outcome_conditional, binary_error notSign notNot fails]
  · rfl
  · rintro _ _ _ ⟨⟩
    exact notIf rfl

theorem assignment_error (notPrimary : ¬ BeginsPrimary w) (notSign : ¬ IsSign w)
    (notNot : w ≠ .operator .not) (notIf : w ≠ .keyword .ifThen) (finish : Mark)
    (written : String) (span : Span) (ts : List Token) :
    ∃ f, outcome (assignment finish (⟨w, written, span⟩ :: ts)) = .error f := by
  obtain ⟨f, fails⟩ := indexed_error notPrimary finish written span ts
  refine ⟨f, ?_⟩
  rw [outcome_unassigned, conditional_error notSign notNot notIf fails]
  · rintro _ _ _ _ _ _ ⟨⟩
    exact notPrimary (.inr (.inl ⟨_, rfl⟩))
  · rintro _ _ _ _ _ _ ⟨⟩
    exact notPrimary (.inr (.inl ⟨_, rfl⟩))

/-- No expression begins with a sign that closes or separates. -/
theorem assignment_error_closing
    (closing : w = .rightBracket ∨ w = .rightParen ∨ w = .semicolon) (finish : Mark)
    (written : String) (span : Span) (ts : List Token) :
    ∃ f, outcome (assignment finish (⟨w, written, span⟩ :: ts)) = .error f := by
  apply assignment_error
  · rintro (⟨v, ⟨⟩⟩ | ⟨x, rfl⟩ | rfl | rfl) <;> simp at closing
  · rintro ⟨sign, op, rfl, -⟩
    simp at closing
  · rintro rfl
    simp at closing
  · rintro rfl
    simp at closing

end Heads

/-- No primary begins with an operator. -/
theorem not_beginsPrimary_operator (sign : Operator) : ¬ BeginsPrimary (.operator sign) := by
  rintro (⟨v, literal⟩ | ⟨x, same⟩ | same | same)
  · cases literal
  all_goals cases same

/-! ## What follows a tighter category -/

section Climbing

variable {ts : List Token} {rest : List Lexeme} {e : Tree}

/-- Positions end where no opening bracket follows. -/
theorem indexedRest_of_stops {us : List Token} (stops : Stops 1 (lexemes us)) (start : Span)
    (base : Rule) (last : Nat) :
    outcome (indexedRest finish start base last us) = .ok ⟨base, last, us⟩ := by
  apply outcome_indexedRest_end
  rintro written span following rfl
  exact absurd (stops_cons.mp stops) (Nat.lt_irrefl _)

/-- Operations of a level end where no sign of the level follows. -/
theorem binaryRest_of_stops {l : Level} {us : List Token}
    (stops : Stops (l.tighter + 3) (lexemes us)) (start : Span) (left : Rule) (last : Nat) :
    outcome (binaryRest finish l.tighter start left last us) = .ok ⟨left, last, us⟩ := by
  apply outcome_binaryRest_end
  rintro sign written span following rfl
  apply Option.eq_none_iff_forall_ne_some.mpr
  intro op joins
  have larger := stops_cons.mp stops
  rw [(binaryOp?_eq_some_iff.mp joins).rank] at larger
  exact Nat.lt_irrefl _ larger

theorem reads_indexed_of_primary (primary : Reads finish .primary ts rest e)
    (stops : Stops 1 rest) : Reads finish .indexed ts rest e := by
  rw [Reads, read, outcome_indexed]
  apply primary.bind
  rintro p rfl rfl
  rw [indexedRest_of_stops stops]
  exact gives_ok _

theorem reads_unsigned (indexed : Reads finish .indexed ts rest e) :
    Reads finish .signed ts rest e := by
  rw [Reads, read, outcome_unsigned]
  · exact indexed
  · rintro sign written start us rfl
    obtain ⟨f, fails⟩ :=
      indexed_error (not_beginsPrimary_operator sign) finish written start us
    exact absurd fails (indexed.not_error f)

theorem reads_unrelated (signed : Reads finish .signed ts rest e) (stops : Stops 2 rest) :
    Reads finish .keyword ts rest e := by
  rw [Reads, read, outcome_keywordOperation]
  apply signed.bind
  rintro p rfl rfl
  unfold keywordAfter
  split
  · rename_i k written span following same
    split
    · rename_i op relates
      rw [same] at stops
      have larger := stops_cons.mp stops
      rw [(keywordOp?_eq_some_iff.mp relates).rank] at larger
      exact absurd larger (Nat.lt_irrefl _)
    · exact gives_ok p
  · exact gives_ok p

theorem reads_affirmed (keyword : Reads finish .keyword ts rest e) :
    Reads finish .negation ts rest e := by
  rw [Reads, read, outcome_affirmed]
  · exact keyword
  · rintro written start us rfl
    obtain ⟨f, fails⟩ :=
      indexed_error (not_beginsPrimary_operator .not) finish written start us
    have notSign : ¬ IsSign (.operator .not) := by
      rintro ⟨_, _, ⟨⟩, signs⟩
      cases signs
    exact absurd (keyword_error notSign fails) (keyword.not_error f)

theorem reads_operand {l : Level} (operand : Reads finish l.operand ts rest e)
    (stops : Stops (l.tighter + 3) rest) : Reads finish (.operation l) ts rest e := by
  rw [Reads, read_operation]
  apply operand.bind
  rintro p rfl rfl
  rw [binaryRest_of_stops stops]
  exact gives_ok p

/-- Operations do not begin with `if`. -/
theorem not_if_of_reads (operation : Reads finish (.operation .disjunction) ts rest e)
    (written : String) (start : Span) (us : List Token) :
    ts ≠ ⟨.keyword .ifThen, written, start⟩ :: us := by
  rintro rfl
  have notPrimary : ¬ BeginsPrimary (.keyword .ifThen) := by
    rintro (⟨v, literal⟩ | ⟨x, same⟩ | same | same) <;> contradiction
  have notSign : ¬ IsSign (.keyword .ifThen) := by
    rintro ⟨_, _, ⟨⟩, -⟩
  obtain ⟨f, fails⟩ := indexed_error notPrimary finish written start us
  exact operation.not_error f (binary_error notSign (by simp) fails loosest)

theorem reads_unconditional (operation : Reads finish (.operation .disjunction) ts rest e)
    (stops : Stops 10 rest) : Reads finish .conditional ts rest e := by
  rw [Reads, read, outcome_conditional (not_if_of_reads operation)]
  apply operation.bind
  rintro p rfl rfl
  unfold choiceAfter
  split
  · rename_i written span following same
    rw [same] at stops
    exact absurd (stops_cons.mp stops) (Nat.lt_irrefl _)
  · exact gives_ok p

/-- An indexed operand is a conditional if nothing that follows goes on with one. -/
theorem reads_conditional_of_indexed (indexed : Reads finish .indexed ts rest e)
    (stops : Stops 10 rest) : Reads finish .conditional ts rest e := by
  have keyword := reads_unrelated (reads_unsigned indexed) (stops.mono (by decide))
  have power := reads_operand (l := .power) (reads_affirmed keyword) (stops.mono (by decide))
  have product := reads_operand (l := .product) power (stops.mono (by decide))
  have sum := reads_operand (l := .sum) product (stops.mono (by decide))
  have relation := reads_operand (l := .relation) sum (stops.mono (by decide))
  have equality := reads_operand (l := .equality) relation (stops.mono (by decide))
  have conjunction := reads_operand (l := .conjunction) equality (stops.mono (by decide))
  have disjunction := reads_operand (l := .disjunction) conjunction (stops.mono (by decide))
  exact reads_unconditional disjunction stops

end Climbing

/-! ## Derived expressions are read -/

/-- What is derived in a category is read from the tokens of its lexemes, if what follows
does not go on with it.  Operations and indexed operands are read up to the point where
they go on. -/
def Completes (finish : Mark) (c : Category) (ws rest : List Lexeme) (e : Tree) : Prop :=
  ∀ ts, lexemes ts = ws →
    match c with
    | .operation l => Stops (l.tighter + 2) rest →
        ∃ p : Extent Rule, lexemes p.rest = rest ∧ tree p.value = e ∧
          outcome (binary finish (l.tighter + 1) ts) =
            outcome (binaryRest finish l.tighter (here finish ts) p.value p.last p.rest)
    | .indexed =>
        ∃ p : Extent Rule, lexemes p.rest = rest ∧ tree p.value = e ∧
          outcome (indexed finish ts) =
            outcome (indexedRest finish (here finish ts) p.value p.last p.rest)
    | c => Stops c.rank rest → Reads finish c ts rest e

section Completes

variable {ws us vs rest : List Lexeme} {e l r i y n : Tree}

theorem Completes.reads {c : Category} (completes : Completes finish c ws rest e)
    (stops : Stops c.rank rest) {ts : List Token} (same : lexemes ts = ws) :
    Reads finish c ts rest e := by
  have here := completes ts same
  cases c with
  | operation l =>
      obtain ⟨p, rfl, rfl, goesOn⟩ := here (stops.mono (Nat.le_succ _))
      rw [Reads, read, goesOn, binaryRest_of_stops stops]
      exact gives_ok p
  | indexed =>
      obtain ⟨p, rfl, rfl, goesOn⟩ := here
      rw [Reads, read, goesOn, indexedRest_of_stops stops]
      exact gives_ok p
  | _ => exact here stops

/-! ### Assignments -/

theorem completes_assign {x : String} (value : Completes finish .assignment ws rest e) :
    Completes finish .assignment (.name x :: .operator .assign :: ws) rest (.assign () x e) := by
  intro ts same stops
  obtain ⟨written, start, _, rfl, afterName⟩ := exists_of_lexemes_eq_cons same
  obtain ⟨sign, span, following, rfl, afterSign⟩ := exists_of_lexemes_eq_cons afterName
  rw [Reads, read, outcome_assign]
  apply (value.reads stops afterSign).bind
  rintro p rfl rfl
  exact gives_ok _

theorem completes_append {x : String} (value : Completes finish .assignment ws rest e) :
    Completes finish .assignment
      (.name x :: .leftBracket :: .rightBracket :: .operator .assign :: ws) rest
      (.indexAssign () x none e) := by
  intro ts same stops
  obtain ⟨written, start, _, rfl, afterName⟩ := exists_of_lexemes_eq_cons same
  obtain ⟨opening, openingSpan, _, rfl, afterOpening⟩ := exists_of_lexemes_eq_cons afterName
  obtain ⟨closing, closingSpan, _, rfl, afterClosing⟩ :=
    exists_of_lexemes_eq_cons afterOpening
  obtain ⟨sign, span, following, rfl, afterSign⟩ := exists_of_lexemes_eq_cons afterClosing
  rw [Reads, read, outcome_append]
  apply (value.reads stops afterSign).bind
  rintro p rfl rfl
  exact gives_ok _

/-- No expression begins with what closes the target of an assignment. -/
theorem not_closesTarget_of_reads {ts : List Token}
    (position : Reads finish .assignment ts rest e) : ¬ ClosesTarget ts := by
  rintro ⟨closing, closingSpan, sign, span, following, rfl⟩
  obtain ⟨f, fails⟩ := assignment_error_closing (.inl rfl) finish closing closingSpan
    (⟨.operator .assign, sign, span⟩ :: following)
  exact position.not_error f fails

theorem completes_assignItem {x : String}
    (position : Completes finish .assignment ws (.rightBracket :: .operator .assign :: vs) i)
    (value : Completes finish .assignment vs rest e) :
    Completes finish .assignment (.name x :: .leftBracket :: ws) rest
      (.indexAssign () x (some i) e) := by
  intro ts same stops
  obtain ⟨written, start, _, rfl, afterName⟩ := exists_of_lexemes_eq_cons same
  obtain ⟨opening, openingSpan, us, rfl, afterOpening⟩ := exists_of_lexemes_eq_cons afterName
  have positionReads := position.reads (stops_cons.mpr (by decide)) afterOpening
  have notClosing := not_closesTarget_of_reads positionReads
  obtain ⟨⟨found, last, after⟩, positionRead, afterPosition, rfl⟩ := positionReads
  obtain ⟨closing, closingSpan, _, rfl, afterClosing⟩ :=
    exists_of_lexemes_eq_cons afterPosition
  obtain ⟨sign, span, following, rfl, afterSign⟩ := exists_of_lexemes_eq_cons afterClosing
  rw [Reads, read, outcome_assignItem notClosing positionRead]
  apply (value.reads stops afterSign).bind
  rintro p rfl rfl
  exact gives_ok _

/-- A conditional is read as an assignment, unless the sign of an assignment follows. -/
theorem reads_unassigned {ts : List Token} (conditional : Reads finish .conditional ts rest e)
    (stops : Stops 11 rest) : Reads finish .assignment ts rest e := by
  -- What reads as a target cannot read as a conditional: that would end before the sign.
  have noTarget (target : Tree) (after : List Lexeme)
      (indexed : Reads finish .indexed ts (.operator .assign :: after) target) : False := by
    have other := reads_conditional_of_indexed indexed (stops_cons.mpr (by decide))
    obtain ⟨p, ended, rfl, -⟩ := conditional
    obtain ⟨q, otherEnded, restSame, -⟩ := other
    cases ended.symm.trans otherEnded
    rw [restSame] at stops
    exact absurd (stops_cons.mp stops) (Nat.lt_irrefl _)
  rw [Reads, read]
  by_cases isItem : ∃ x written start opening span us,
      ts = ⟨.name x, written, start⟩ :: ⟨.leftBracket, opening, span⟩ :: us
  · obtain ⟨x, written, start, opening, span, us, rfl⟩ := isItem
    have base : outcome (primary finish (⟨.name x, written, start⟩ ::
        ⟨.leftBracket, opening, span⟩ :: us)) =
          .ok ⟨.var start x, start.stop, ⟨.leftBracket, opening, span⟩ :: us⟩ :=
      outcome_var (by simp) x written start
    rw [outcome_bracket]
    · exact conditional
    · rintro ⟨closing, closingSpan, sign, signSpan, following, rfl⟩
      obtain ⟨f, positionFails⟩ := assignment_error_closing (.inl rfl) finish closing
        closingSpan (⟨.operator .assign, sign, signSpan⟩ :: following)
      have fails : outcome (indexed finish (⟨.name x, written, start⟩ ::
          ⟨.leftBracket, opening, span⟩ :: ⟨.rightBracket, closing, closingSpan⟩ ::
            ⟨.operator .assign, sign, signSpan⟩ :: following)) = .error f := by
        rw [outcome_indexed, base]
        change outcome (indexedRest _ _ _ _ _) = _
        rw [outcome_indexedRest_bracket, positionFails]
        rfl
      exact conditional.not_error f
        (conditional_error (by rintro ⟨_, _, ⟨⟩, -⟩) (by simp) (by simp) fails)
    · rintro position last after positionRead
        ⟨closing, closingSpan, sign, signSpan, following, rfl⟩
      apply noTarget (.index () (.var () x) (tree position)) (lexemes following)
      have positionGives : Reads finish .assignment us
          (.rightBracket :: .operator .assign :: lexemes following) (tree position) :=
        ⟨_, positionRead, rfl, rfl⟩
      rw [Reads, read, outcome_indexed, base]
      change Gives tree (outcome (indexedRest _ _ _ _ _)) _ _
      rw [outcome_indexedRest_bracket]
      apply positionGives.bind
      intro p afterPosition positionSame
      apply (gives_expectRightBracket afterPosition).bind
      rintro q restSame -
      rw [indexedRest_of_stops (by rw [restSame]; exact stops_cons.mpr (by decide))]
      exact ⟨_, rfl, restSame, congrArg (Expr.index () (.var () x)) positionSame⟩
  · rw [outcome_unassigned]
    · exact conditional
    · rintro x written start sign span us rfl
      apply noTarget (.var () x) (lexemes us)
      apply reads_indexed_of_primary _ (stops_cons.mpr (by decide))
      rw [Reads, read, outcome_var (by simp)]
      exact gives_ok _
    · exact fun _ _ _ _ _ _ same => isItem ⟨_, _, _, _, _, _, same⟩

theorem completes_unassigned (conditional : Completes finish .conditional ws rest e) :
    Completes finish .assignment ws rest e := by
  intro ts same stops
  exact reads_unassigned (conditional.reads (stops.mono (by decide)) same) stops

/-! ### Conditionals -/

/-- A keyword between expressions goes on with no expression. -/
theorem stops_keyword {k : Keyword} (noOp : keywordOp? k = none) {n : Nat} (le : n < 14) :
    Stops n (.keyword k :: rest) := by
  apply stops_cons.mpr
  rw [Lexeme.rank, noOp]
  exact le

theorem completes_ifThen
    (condition : Completes finish (.operation .disjunction) ws (.keyword .thenBranch :: us) e)
    (yes : Completes finish .assignment us (.keyword .endIf :: rest) y) :
    Completes finish .conditional (.keyword .ifThen :: ws) rest (.conditional () e y none) := by
  intro ts same stops
  obtain ⟨written, start, following, rfl, afterIf⟩ := exists_of_lexemes_eq_cons same
  rw [Reads, read, outcome_if]
  apply (condition.reads (stops_keyword rfl (by decide)) afterIf).bind
  rintro c afterCondition rfl
  apply (gives_expectKeyword afterCondition).bind
  rintro word afterThen -
  apply (yes.reads (stops_keyword rfl (by decide)) afterThen).bind
  rintro ⟨first, last, after⟩ afterYes rfl
  obtain ⟨written, span, after, rfl, afterEnd⟩ := exists_of_lexemes_eq_cons afterYes
  exact ⟨_, rfl, afterEnd, rfl⟩

theorem completes_ifThenElse
    (condition : Completes finish (.operation .disjunction) ws (.keyword .thenBranch :: us) e)
    (yes : Completes finish .assignment us (.keyword .elseBranch :: vs) y)
    (no : Completes finish .assignment vs (.keyword .endIf :: rest) n) :
    Completes finish .conditional (.keyword .ifThen :: ws) rest
      (.conditional () e y (some n)) := by
  intro ts same stops
  obtain ⟨written, start, following, rfl, afterIf⟩ := exists_of_lexemes_eq_cons same
  rw [Reads, read, outcome_if]
  apply (condition.reads (stops_keyword rfl (by decide)) afterIf).bind
  rintro c afterCondition rfl
  apply (gives_expectKeyword afterCondition).bind
  rintro word afterThen -
  apply (yes.reads (stops_keyword rfl (by decide)) afterThen).bind
  rintro ⟨first, last, after⟩ afterYes rfl
  obtain ⟨written, span, after, rfl, afterElse⟩ := exists_of_lexemes_eq_cons afterYes
  apply (no.reads (stops_keyword rfl (by decide)) afterElse).bind
  rintro second afterNo rfl
  apply (gives_expectKeyword afterNo).bind
  rintro close rfl -
  exact gives_ok _

theorem completes_choice
    (condition : Completes finish (.operation .disjunction) ws (.operator .question :: us) e)
    (yes : Completes finish .conditional us (.operator .colon :: vs) y)
    (no : Completes finish .conditional vs rest n) :
    Completes finish .conditional ws rest (.conditional () e y (some n)) := by
  intro ts same stops
  have conditionReads := condition.reads (stops_cons.mpr (by decide)) same
  rw [Reads, read, outcome_conditional (not_if_of_reads conditionReads)]
  apply conditionReads.bind
  rintro ⟨c, last, after⟩ afterCondition rfl
  obtain ⟨written, span, after, rfl, afterMark⟩ := exists_of_lexemes_eq_cons afterCondition
  apply (yes.reads (stops_cons.mpr (by decide)) afterMark).bind
  rintro first afterYes rfl
  apply (gives_expectColon afterYes).bind
  rintro colon afterColon -
  apply (no.reads stops afterColon).bind
  rintro second rfl rfl
  exact gives_ok _

theorem completes_unconditional
    (operation : Completes finish (.operation .disjunction) ws rest e) :
    Completes finish .conditional ws rest e := by
  intro ts same stops
  exact reads_unconditional (operation.reads (stops.mono (by decide)) same) stops

/-! ### Operations -/

theorem completes_operation {level : Level} {sign : Operator} {op : BinaryOp}
    (joins : Joins level sign op)
    (left : Completes finish (.operation level) ws (.operator sign :: vs) l)
    (right : Completes finish level.operand vs rest r) :
    Completes finish (.operation level) ws rest (node op l r) := by
  intro ts same stops
  obtain ⟨⟨first, last, after⟩, afterLeft, rfl, goesOn⟩ :=
    left ts same (stops_cons.mpr (by rw [joins.rank]; omega))
  obtain ⟨written, span, after, rfl, afterSign⟩ := exists_of_lexemes_eq_cons afterLeft
  obtain ⟨p, rightRead, rfl, rfl⟩ := right.reads (by rwa [level.rank_operand]) afterSign
  refine ⟨⟨op.node (through (here finish ts) p.last) first p.value, p.last, p.rest⟩, rfl,
    tree_node _ _ _ _, ?_⟩
  rw [goesOn, outcome_binaryRest_sign (binaryOp?_eq_some_iff.mpr joins), ← read_operand,
    rightRead]
  rfl

theorem completes_operand {level : Level} (operand : Completes finish level.operand ws rest e) :
    Completes finish (.operation level) ws rest e := by
  intro ts same stops
  obtain ⟨p, operandRead, restSame, valueSame⟩ :=
    operand.reads (by rwa [level.rank_operand]) same
  refine ⟨p, restSame, valueSame, ?_⟩
  rw [outcome_binary_succ, ← read_operand, operandRead]
  rfl

theorem completes_not (operand : Completes finish .negation ws rest e) :
    Completes finish .negation (.operator .not :: ws) rest (.unary () .not e) := by
  intro ts same stops
  obtain ⟨written, start, us, rfl, afterSign⟩ := exists_of_lexemes_eq_cons same
  rw [Reads, read, outcome_not]
  apply (operand.reads stops afterSign).bind
  rintro p rfl rfl
  exact gives_ok _

theorem completes_affirmed (keyword : Completes finish .keyword ws rest e) :
    Completes finish .negation ws rest e := by
  intro ts same stops
  exact reads_affirmed (keyword.reads stops same)

theorem completes_keyword {k : Keyword} {op : KeywordOp} (relates : Relates k op)
    (left : Completes finish .signed ws (.keyword k :: vs) l)
    (right : Completes finish .signed vs rest r) :
    Completes finish .keyword ws rest (.keyword () op l r) := by
  intro ts same stops
  rw [Reads, read, outcome_keywordOperation]
  apply (left.reads (stops_cons.mpr (by rw [relates.rank]; decide)) same).bind
  rintro ⟨first, last, after⟩ afterLeft rfl
  obtain ⟨written, span, after, rfl, afterKeyword⟩ := exists_of_lexemes_eq_cons afterLeft
  simp only [keywordAfter, keywordOp?_eq_some_iff.mpr relates]
  apply (right.reads (stops.mono (by decide)) afterKeyword).bind
  rintro second rfl rfl
  exact gives_ok _

theorem completes_unrelated (signed : Completes finish .signed ws rest e) :
    Completes finish .keyword ws rest e := by
  intro ts same stops
  exact reads_unrelated (signed.reads (stops.mono (by decide)) same) stops

theorem completes_sign {sign : Operator} {op : UnaryOp} (signs : Signs sign op)
    (operand : Completes finish .signed ws rest e) :
    Completes finish .signed (.operator sign :: ws) rest (.unary () op e) := by
  intro ts same stops
  obtain ⟨written, start, us, rfl, afterSign⟩ := exists_of_lexemes_eq_cons same
  rw [Reads, read, outcome_sign (signOp?_eq_some_iff.mpr signs)]
  apply (operand.reads stops afterSign).bind
  rintro p rfl rfl
  exact gives_ok _

theorem completes_unsigned (indexed : Completes finish .indexed ws rest e) :
    Completes finish .signed ws rest e := by
  intro ts same stops
  exact reads_unsigned (indexed.reads stops same)

theorem completes_index (base : Completes finish .indexed ws (.leftBracket :: vs) e)
    (position : Completes finish .assignment vs (.rightBracket :: rest) i) :
    Completes finish .indexed ws rest (.index () e i) := by
  intro ts same
  obtain ⟨⟨first, last, after⟩, afterBase, rfl, goesOn⟩ := base ts same
  obtain ⟨opening, span, after, rfl, afterOpening⟩ := exists_of_lexemes_eq_cons afterBase
  obtain ⟨p, positionRead, afterPosition, rfl⟩ :=
    position.reads (stops_cons.mpr (by decide)) afterOpening
  obtain ⟨q, closeRead, rfl, -⟩ : Gives id (outcome (expectRightBracket finish p.rest)) rest () :=
    gives_expectRightBracket afterPosition
  refine ⟨⟨.index (through (here finish ts) q.last) first p.value, q.last, q.rest⟩, rfl, rfl, ?_⟩
  rw [read] at positionRead
  rw [goesOn, outcome_indexedRest_bracket, positionRead]
  change outcome (expectRightBracket finish p.rest) >>= _ = _
  rw [closeRead]
  rfl

theorem completes_whole (primary : Completes finish .primary ws rest e) :
    Completes finish .indexed ws rest e := by
  intro ts same
  obtain ⟨p, primaryRead, restSame, valueSame⟩ :=
    primary.reads (stops_zero rest) same
  refine ⟨p, restSame, valueSame, ?_⟩
  rw [read] at primaryRead
  rw [outcome_indexed, primaryRead]
  rfl

/-! ### Items and statements -/

/-- No items begin with a sign that closes. -/
theorem not_closing_of_items {w : Lexeme} {written : String} {span : Span} {ts : List Token}
    {es : List Tree}
    (items : Gives trees (outcome (items finish (⟨w, written, span⟩ :: ts))) rest es) :
    ¬ (w = .rightBracket ∨ w = .rightParen ∨ w = .semicolon) := by
  intro closing
  obtain ⟨f, fails⟩ := assignment_error_closing closing finish written span ts
  apply items.not_error f
  rw [outcome_items, fails]
  rfl

/-- Derived items are read if no comma follows. -/
def CompletesItems (finish : Mark) (ws rest : List Lexeme) (es : List Tree) : Prop :=
  Stops 12 rest → ∀ ts, lexemes ts = ws → Gives trees (outcome (items finish ts)) rest es

theorem completesItems_last (item : Completes finish .assignment ws rest e) :
    CompletesItems finish ws rest [e] := by
  intro stops ts same
  rw [outcome_items]
  apply (item.reads (stops.mono (by decide)) same).bind
  rintro p rfl rfl
  unfold itemsAfter
  split
  · rename_i written span following afterItem
    rw [afterItem] at stops
    exact absurd (stops_cons.mp stops) (Nat.lt_irrefl _)
  · exact gives_ok _

theorem completesItems_comma {es : List Tree}
    (item : Completes finish .assignment ws (.comma :: vs) e)
    (more : CompletesItems finish vs rest es) : CompletesItems finish ws rest (e :: es) := by
  intro stops ts same
  rw [outcome_items]
  apply (item.reads (stops_cons.mpr (by decide)) same).bind
  rintro ⟨first, last, after⟩ afterItem rfl
  obtain ⟨written, span, after, rfl, afterComma⟩ := exists_of_lexemes_eq_cons afterItem
  apply (more stops after afterComma).bind
  rintro p rfl rfl
  exact gives_ok _

/-- Statements end at the end of the rule, and before a closing parenthesis if they are
enclosed in parentheses. -/
def EndsStatements (enclosed : Bool) (rest : List Lexeme) : Prop :=
  ∀ w ∈ rest.head?, enclosed = true ∧ w = .rightParen

/-- Derived statements are read where they end. -/
def CompletesStatements (finish : Mark) (ws rest : List Lexeme) (es : List Tree) : Prop :=
  ∀ enclosed, EndsStatements enclosed rest → ∀ last ts, lexemes ts = ws →
    Gives trees (outcome (statements finish enclosed last ts)) rest es

theorem EndsStatements.stops {enclosed : Bool} (ends : EndsStatements enclosed rest) :
    Stops 13 rest := by
  intro w member
  obtain ⟨-, rfl⟩ := ends w member
  decide

theorem completesStatements_nothing : CompletesStatements finish rest rest [] := by
  rintro enclosed ends last ts rfl
  rcases ts with _ | ⟨⟨lexeme, written, span⟩, ts⟩
  · rw [outcome_statements_nil]
    exact gives_ok _
  · obtain ⟨rfl, rfl⟩ := ends lexeme rfl
    rw [outcome_statements_close]
    exact gives_ok _

theorem completesStatements_skip {es : List Tree}
    (more : CompletesStatements finish ws rest es) :
    CompletesStatements finish (.semicolon :: ws) rest es := by
  intro enclosed ends last ts same
  obtain ⟨written, span, us, rfl, afterSemicolon⟩ := exists_of_lexemes_eq_cons same
  rw [outcome_statements_skip]
  exact more enclosed ends span.stop us afterSemicolon

/-- Statements begin with the first of them. -/
theorem outcome_statements_of_reads {ts : List Token}
    (statement : Reads finish .assignment ts rest e) (enclosed : Bool) (last : Nat) :
    outcome (statements finish enclosed last ts) =
      outcome (assignment finish ts) >>= statementsAfter finish enclosed := by
  have notEmpty : ts ≠ [] := by
    rintro rfl
    obtain ⟨p, ended, -, -⟩ := statement
    exact absurd (length_lt_of_read ended) (Nat.not_lt_zero _)
  obtain ⟨⟨lexeme, written, span⟩, ts, rfl⟩ := List.exists_cons_of_ne_nil notEmpty
  have notClosing (closing : lexeme = .rightBracket ∨ lexeme = .rightParen ∨
      lexeme = .semicolon) : False := by
    obtain ⟨f, fails⟩ := assignment_error_closing closing finish written span ts
    exact statement.not_error f fails
  apply outcome_statements_cons
  · exact fun same => notClosing (.inr (.inr same))
  · exact fun same => notClosing (.inr (.inl same.2))

theorem completesStatements_last (statement : Completes finish .assignment ws rest e) :
    CompletesStatements finish ws rest [e] := by
  intro enclosed ends last ts same
  have statementReads := statement.reads (ends.stops.mono (by decide)) same
  rw [outcome_statements_of_reads statementReads]
  apply statementReads.bind
  rintro p rfl rfl
  unfold statementsAfter
  split
  · rename_i written span following afterStatement
    rw [afterStatement] at ends
    exact absurd (stops_cons.mp ends.stops) (Nat.lt_irrefl _)
  · exact gives_ok _

theorem completesStatements_next {es : List Tree}
    (statement : Completes finish .assignment ws (.semicolon :: vs) e)
    (more : CompletesStatements finish vs rest es) :
    CompletesStatements finish ws rest (e :: es) := by
  intro enclosed ends last ts same
  have statementReads := statement.reads (stops_cons.mpr (by decide)) same
  rw [outcome_statements_of_reads statementReads]
  apply statementReads.bind
  rintro ⟨first, last, after⟩ afterStatement rfl
  obtain ⟨written, span, after, rfl, afterSemicolon⟩ :=
    exists_of_lexemes_eq_cons afterStatement
  apply (more enclosed ends span.stop after afterSemicolon).bind
  rintro p rfl rfl
  exact gives_ok _

/-! ### Primaries -/

theorem completes_literal {w : Lexeme} {v : Value} (literal : Literal w v) :
    Completes finish .primary (w :: rest) rest (.literal () v) := by
  intro ts same stops
  obtain ⟨written, span, us, rfl, rfl⟩ := exists_of_lexemes_eq_cons same
  rw [Reads, read, outcome_literal literal]
  exact gives_ok _

theorem completes_callNothing {f : String} :
    Completes finish .primary (.name f :: .leftParen :: .rightParen :: rest) rest
      (.call () f []) := by
  intro ts same stops
  obtain ⟨written, start, _, rfl, afterName⟩ := exists_of_lexemes_eq_cons same
  obtain ⟨opening, openingSpan, _, rfl, afterOpening⟩ := exists_of_lexemes_eq_cons afterName
  obtain ⟨closing, span, us, rfl, rfl⟩ := exists_of_lexemes_eq_cons afterOpening
  rw [Reads, read, outcome_callNothing]
  exact gives_ok _

theorem completes_call {f : String} {es : List Tree}
    (args : CompletesItems finish ws (.rightParen :: rest) es) :
    Completes finish .primary (.name f :: .leftParen :: ws) rest (.call () f es) := by
  intro ts same stops
  obtain ⟨written, start, _, rfl, afterName⟩ := exists_of_lexemes_eq_cons same
  obtain ⟨opening, openingSpan, us, rfl, afterOpening⟩ := exists_of_lexemes_eq_cons afterName
  have argsRead := args (stops_cons.mpr (by decide)) us afterOpening
  rw [Reads, read, outcome_call]
  · apply argsRead.bind
    rintro p afterArgs rfl
    apply (gives_expectRightParen afterArgs).bind
    rintro close rfl -
    exact ⟨_, rfl, rfl, by simp only [tree, Expr.map, mapAll_eq_map]; rfl⟩
  · rintro closing span following rfl
    exact not_closing_of_items argsRead (.inr (.inl rfl))

theorem completes_var {x : String} (notCall : rest.head? ≠ some .leftParen) :
    Completes finish .primary (.name x :: rest) rest (.var () x) := by
  intro ts same stops
  obtain ⟨written, span, us, rfl, rfl⟩ := exists_of_lexemes_eq_cons same
  rw [Reads, read, outcome_var]
  · exact gives_ok _
  · rintro opening start following rfl
    exact notCall rfl

theorem completes_parentheses {es : List Tree}
    (body : CompletesStatements finish ws (.rightParen :: rest) es)
    (notEmpty : ws ≠ .rightParen :: rest) :
    Completes finish .primary (.leftParen :: ws) rest (Grammar.block es) := by
  intro ts same stops
  obtain ⟨written, start, us, rfl, afterOpening⟩ := exists_of_lexemes_eq_cons same
  have ends : EndsStatements true (.rightParen :: rest) := by
    rintro _ ⟨⟩
    exact ⟨rfl, rfl⟩
  have bodyRead := body true ends start.stop us afterOpening
  rw [Reads, read, outcome_parentheses]
  · apply bodyRead.bind
    rintro p afterBody rfl
    apply (gives_expectRightParen afterBody).bind
    rintro close rfl -
    exact ⟨_, rfl, rfl, tree_block _ _ _⟩
  · rintro closing span following rfl
    rw [outcome_statements_close] at bodyRead
    obtain ⟨p, ended, restSame, -⟩ := bodyRead
    cases ended
    exact notEmpty (afterOpening.symm.trans restSame)

theorem completes_emptyList :
    Completes finish .primary (.leftBracket :: .rightBracket :: rest) rest (.list () []) := by
  intro ts same stops
  obtain ⟨opening, start, _, rfl, afterOpening⟩ := exists_of_lexemes_eq_cons same
  obtain ⟨closing, span, us, rfl, rfl⟩ := exists_of_lexemes_eq_cons afterOpening
  rw [Reads, read, outcome_emptyList]
  exact gives_ok _

theorem completes_list {es : List Tree}
    (members : CompletesItems finish ws (.rightBracket :: rest) es) :
    Completes finish .primary (.leftBracket :: ws) rest (.list () es) := by
  intro ts same stops
  obtain ⟨opening, start, us, rfl, afterOpening⟩ := exists_of_lexemes_eq_cons same
  have membersRead := members (stops_cons.mpr (by decide)) us afterOpening
  rw [Reads, read, outcome_list]
  · apply membersRead.bind
    rintro p afterMembers rfl
    apply (gives_expectRightBracket afterMembers).bind
    rintro close rfl -
    exact ⟨_, rfl, rfl, by simp only [tree, Expr.map, mapAll_eq_map]; rfl⟩
  · rintro closing span following rfl
    exact not_closing_of_items membersRead (.inl rfl)

end Completes

/-! ## All derivations -/

mutual

/-- Derived expressions are read. -/
theorem completes_of_derives : ∀ {c ws rest e}, Derives c ws rest e →
    Completes finish c ws rest e
  | _, _, _, _, .assign value => completes_assign (completes_of_derives value)
  | _, _, _, _, .append value => completes_append (completes_of_derives value)
  | _, _, _, _, .assignItem position value =>
      completes_assignItem (completes_of_derives position) (completes_of_derives value)
  | _, _, _, _, .unassigned conditional =>
      completes_unassigned (completes_of_derives conditional)
  | _, _, _, _, .ifThen condition yes =>
      completes_ifThen (completes_of_derives condition) (completes_of_derives yes)
  | _, _, _, _, .ifThenElse condition yes no =>
      completes_ifThenElse (completes_of_derives condition) (completes_of_derives yes)
        (completes_of_derives no)
  | _, _, _, _, .choice condition yes no =>
      completes_choice (completes_of_derives condition) (completes_of_derives yes)
        (completes_of_derives no)
  | _, _, _, _, .unconditional operation =>
      completes_unconditional (completes_of_derives operation)
  | _, _, _, _, .operation joins left right =>
      completes_operation joins (completes_of_derives left) (completes_of_derives right)
  | _, _, _, _, .operand operand => completes_operand (completes_of_derives operand)
  | _, _, _, _, .not operand => completes_not (completes_of_derives operand)
  | _, _, _, _, .affirmed keyword => completes_affirmed (completes_of_derives keyword)
  | _, _, _, _, .keyword relates left right =>
      completes_keyword relates (completes_of_derives left) (completes_of_derives right)
  | _, _, _, _, .unrelated signed => completes_unrelated (completes_of_derives signed)
  | _, _, _, _, .sign signs operand => completes_sign signs (completes_of_derives operand)
  | _, _, _, _, .unsigned indexed => completes_unsigned (completes_of_derives indexed)
  | _, _, _, _, .index base position =>
      completes_index (completes_of_derives base) (completes_of_derives position)
  | _, _, _, _, .whole primary => completes_whole (completes_of_derives primary)
  | _, _, _, _, .literal literal => completes_literal literal
  | _, _, _, _, .callNothing => completes_callNothing
  | _, _, _, _, .call args => completes_call (completesItems_of_derives args)
  | _, _, _, _, .var notCall => completes_var notCall
  | _, _, _, _, .parentheses body notEmpty =>
      completes_parentheses (completesStatements_of_derives body) notEmpty
  | _, _, _, _, .emptyList => completes_emptyList
  | _, _, _, _, .list members => completes_list (completesItems_of_derives members)

/-- Derived items are read. -/
theorem completesItems_of_derives : ∀ {ws rest es}, DerivesItems ws rest es →
    CompletesItems finish ws rest es
  | _, _, _, .last item => completesItems_last (completes_of_derives item)
  | _, _, _, .comma item more =>
      completesItems_comma (completes_of_derives item) (completesItems_of_derives more)

/-- Derived statements are read. -/
theorem completesStatements_of_derives : ∀ {ws rest es}, DerivesStatements ws rest es →
    CompletesStatements finish ws rest es
  | _, _, _, .nothing => completesStatements_nothing
  | _, _, _, .skip more => completesStatements_skip (completesStatements_of_derives more)
  | _, _, _, .last statement => completesStatements_last (completes_of_derives statement)
  | _, _, _, .next statement more =>
      completesStatements_next (completes_of_derives statement)
        (completesStatements_of_derives more)

end

/-- A rule whose lexemes derive a tree is read, and has that tree. -/
theorem parse_of_derivesRule {ts : Tokens} {e : Tree}
    (derived : DerivesRule (lexemes ts.tokens) e) :
    ∃ rule, ts.parse = .ok rule ∧ tree rule = e := by
  obtain ⟨es, statements, rfl⟩ := derived
  have completes : CompletesStatements ts.finish (lexemes ts.tokens) [] es :=
    completesStatements_of_derives statements
  obtain ⟨p, bodyRead, restSame, rfl⟩ := completes false nofun 0 ts.tokens rfl
  cases ran : Parser.statements ts.finish false 0 ts.tokens with
  | error f =>
      rw [ran] at bodyRead
      cases bodyRead
  | ok body =>
      rw [ran] at bodyRead
      cases bodyRead
      have empty : body.rest = [] := eq_nil_of_lexemes restSame
      refine ⟨Parser.block (here ts.finish ts.tokens) body.last body.value, ?_,
        tree_block _ _ _⟩
      rw [Tokens.parse, ran]
      simp only [bind, Except.bind, empty, List.isEmpty_nil, if_true]
      rfl

end Parser

/-! ## What the parser accepts -/

/-- Tokens are read as a rule exactly if the grammar derives the rule's tree from their
lexemes. -/
theorem parse_iff_derives (ts : Tokens) (e : Tree) :
    (∃ rule, ts.parse = .ok rule ∧ tree rule = e) ↔
      Grammar.DerivesRule (lexemes ts.tokens) e := by
  constructor
  · rintro ⟨rule, parsed, rfl⟩
    exact Parser.derivesRule_of_parse parsed
  · exact Parser.parse_of_derivesRule

/-- A row of lexemes derives at most one tree. -/
theorem Grammar.DerivesRule.unique {ws : List Lexeme} {d e : Tree}
    (first : DerivesRule ws d) (second : DerivesRule ws e) : d = e := by
  let ts : Tokens := ⟨ws.map fun w => ⟨w, "", Span.empty default⟩, default⟩
  have same : lexemes ts.tokens = ws := by
    simp only [ts, lexemes, List.map_map, Function.comp_def, List.map_id']
  rw [← same] at first second
  obtain ⟨rule, parsed, rfl⟩ := Parser.parse_of_derivesRule first
  obtain ⟨other, otherParsed, rfl⟩ := Parser.parse_of_derivesRule second
  cases parsed.symm.trans otherParsed
  rfl

end EditGuard.Rule
