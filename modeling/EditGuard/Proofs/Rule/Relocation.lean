import EditGuard.Proofs.Rule.Soundness

/-!
# Rules at other places

The parser looks at what tokens are and how they are written.  The places of tokens it only
passes on: when they are changed, the same tree is read, or the same problem found, with the
places changed in the same way.  The argument follows the parser, each category in terms of the
tighter ones and of shorter rows of tokens.
-/

namespace EditGuard.Rule

open Grammar

/-! ## Changing places -/

/-- A change of places and of the offsets where stretches end.  It goes well with the end of a
stretch that is made of others, and with empty stretches. -/
structure Relocation where
  mark : Mark → Mark
  stop : Nat → Nat
  stop_max : ∀ a b, stop (max a b) = max (stop a) (stop b)
  stop_zero : stop 0 = 0
  offset_mark : ∀ m, (mark m).offset = stop m.offset

namespace Relocation

variable (r : Relocation)

def span (s : Span) : Span :=
  ⟨r.mark s.start, r.stop s.stop⟩

def token (t : Token) : Token :=
  ⟨t.lexeme, t.written, r.span t.span⟩

def tokens (ts : Tokens) : Tokens :=
  ⟨ts.tokens.map r.token, r.mark ts.finish⟩

def finding (f : Finding) : Finding :=
  ⟨f.problem, r.span f.span⟩

def rule (e : Rule) : Rule :=
  e.map r.span

variable {α β : Type}

def extent (move : α → α) (e : Extent α) : Extent α :=
  ⟨move e.value, r.stop e.last, e.rest.map r.token⟩

/-- The change of places that forgets them. -/
def forget : Relocation where
  mark _ := ⟨0, 0, 0, 0⟩
  stop _ := 0
  stop_max _ _ := rfl
  stop_zero := rfl
  offset_mark _ := rfl

/-- A change of places that leaves only some alone. -/
def fixing (kept : List Mark) : Relocation where
  mark m := if m ∈ kept then m else { m with index := m.index + 1 }
  stop n := n
  stop_max _ _ := rfl
  stop_zero := rfl
  offset_mark m := by split <;> rfl

end Relocation

mutual

/-- Marks that are changed twice are changed once by both changes. -/
theorem Expr.map_map {α β γ : Type} (f : α → β) (g : β → γ) :
    ∀ e : Expr α, (e.map f).map g = e.map (g ∘ f)
  | .literal _ _ | .var _ _ => rfl
  | .list _ es | .call _ _ es | .sequence _ es => by
      simp only [Expr.map, Expr.mapAll_mapAll f g es, Function.comp_apply]
  | .unary _ _ e | .assign _ _ e => by
      simp only [Expr.map, Expr.map_map f g e, Function.comp_apply]
  | .arith _ _ left right | .compare _ _ left right | .logic _ _ left right
  | .keyword _ _ left right | .index _ left right => by
      simp only [Expr.map, Expr.map_map f g left, Expr.map_map f g right, Function.comp_apply]
  | .conditional _ condition yes no => by
      simp only [Expr.map, Expr.map_map f g condition, Expr.map_map f g yes,
        Expr.mapOption_mapOption f g no, Function.comp_apply]
  | .indexAssign _ _ position value => by
      simp only [Expr.map, Expr.mapOption_mapOption f g position, Expr.map_map f g value,
        Function.comp_apply]

theorem Expr.mapAll_mapAll {α β γ : Type} (f : α → β) (g : β → γ) :
    ∀ es : List (Expr α), Expr.mapAll g (Expr.mapAll f es) = Expr.mapAll (g ∘ f) es
  | [] => rfl
  | e :: es => congrArg₂ List.cons (Expr.map_map f g e) (Expr.mapAll_mapAll f g es)

theorem Expr.mapOption_mapOption {α β γ : Type} (f : α → β) (g : β → γ) :
    ∀ e : Option (Expr α), Expr.mapOption g (Expr.mapOption f e) = Expr.mapOption (g ∘ f) e
  | none => rfl
  | some e => congrArg some (Expr.map_map f g e)

end

namespace Relocation

variable (r : Relocation) {α β : Type}

theorem tree_rule (e : Rule) : tree (r.rule e) = tree e :=
  Expr.map_map _ _ e

/-- An outcome, of whatever kind, at the changed places. -/
def outcome (move : α → β) (x : Except Finding α) : Except Finding β :=
  match x with
  | .ok a => .ok (move a)
  | .error f => .error (r.finding f)

variable {γ δ : Type}

/-- One thing after another. -/
theorem outcome_bind {move : α → β} {moveNext : γ → δ} {x : Except Finding α}
    {y : Except Finding β} {f : α → Except Finding γ} {g : β → Except Finding δ}
    (first : y = r.outcome move x)
    (second : ∀ a, x = .ok a → g (move a) = r.outcome moveNext (f a)) :
    y >>= g = r.outcome moveNext (x >>= f) := by
  subst first
  cases x with
  | ok a => exact second a rfl
  | error f => rfl

theorem span_empty (m : Mark) : Span.empty (r.mark m) = r.span (Span.empty m) := by
  rw [Span.empty, r.offset_mark]
  rfl

theorem extent_value (move : α → α) (e : Extent α) : (r.extent move e).value = move e.value :=
  rfl

theorem extent_last (move : α → α) (e : Extent α) : (r.extent move e).last = r.stop e.last :=
  rfl

theorem extent_rest (move : α → α) (e : Extent α) :
    (r.extent move e).rest = e.rest.map r.token :=
  rfl

/-- Tokens at changed places begin as they did before. -/
theorem exists_of_map_eq_cons {ts us : List Token} {w : Lexeme} {written : String} {span : Span}
    (same : ts.map r.token = ⟨w, written, span⟩ :: us) :
    ∃ place rest, ts = ⟨w, written, place⟩ :: rest := by
  obtain ⟨⟨_, _, place⟩, rest, rfl, head, -⟩ := List.map_eq_cons_iff.mp same
  cases head
  exact ⟨place, rest, rfl⟩

theorem map_ne_cons {ts : List Token} {w : Lexeme}
    (other : ∀ written span rest, ts ≠ ⟨w, written, span⟩ :: rest) :
    ∀ written span rest, ts.map r.token ≠ ⟨w, written, span⟩ :: rest := by
  intro written span rest same
  obtain ⟨place, before, same⟩ := r.exists_of_map_eq_cons same
  exact other written place before same

end Relocation

namespace Parser

variable {r : Relocation} {finish : Mark} {ts : List Token}

/-! ## Places and nodes -/

theorem here_moved (finish : Mark) (ts : List Token) :
    here (r.mark finish) (ts.map r.token) = r.span (here finish ts) := by
  cases ts with
  | nil => exact r.span_empty finish
  | cons t ts => rfl

theorem through_moved (start : Span) (last : Nat) :
    through (r.span start) (r.stop last) = r.span (through start last) := by
  rw [through, Relocation.span, ← r.stop_max]
  rfl

theorem found_moved (ts : List Token) : found (ts.map r.token) = found ts := by
  cases ts <;> rfl

theorem unexpected_moved (finish : Mark) (ts : List Token) :
    unexpected (r.mark finish) (ts.map r.token) = r.finding (unexpected finish ts) := by
  rw [unexpected, found_moved, here_moved]
  rfl

theorem missing_moved (finish : Mark) (kind text : String) (ts : List Token) :
    missing (r.mark finish) kind text (ts.map r.token) =
      r.finding (missing finish kind text ts) := by
  rw [missing, found_moved, here_moved]
  rfl

theorem node_moved (op : BinaryOp) (span : Span) (left right : Rule) :
    op.node (r.span span) (r.rule left) (r.rule right) = r.rule (op.node span left right) := by
  cases op <;> rfl

theorem block_moved (start : Span) (last : Nat) (rules : List Rule) :
    block (r.span start) (r.stop last) (rules.map r.rule) = r.rule (block start last rules) := by
  rcases rules with _ | ⟨first, _ | ⟨second, more⟩⟩
  · rw [List.map_nil, block, through_moved]
    · rfl
    · intro e same
      cases same
  · rfl
  · rw [List.map_cons, List.map_cons, block, through_moved]
    · simp only [block, Relocation.rule, Expr.map, mapAll_eq_map, List.map_cons]
      rfl
    · intro e same
      cases same

/-! ## Single tokens -/

/-- Reading one token of a kind follows the places. -/
theorem moved_expect {expect : Mark → (ts : List Token) → Parsing Unit ts.length} {w : Lexeme}
    {kind text : String}
    (reads : ∀ finish written span rest,
      outcome (expect finish (⟨w, written, span⟩ :: rest)) = .ok ⟨(), span.stop, rest⟩)
    (fails : ∀ finish ts, (∀ written span rest, ts ≠ ⟨w, written, span⟩ :: rest) →
      outcome (expect finish ts) = .error (missing finish kind text ts))
    (finish : Mark) (ts : List Token) :
    outcome (expect (r.mark finish) (ts.map r.token)) =
      r.outcome (r.extent id) (outcome (expect finish ts)) := by
  by_cases expected : ∃ written span rest, ts = ⟨w, written, span⟩ :: rest
  · obtain ⟨written, span, rest, rfl⟩ := expected
    rw [List.map_cons, reads]
    exact reads _ _ _ _
  · have other : ∀ written span rest, ts ≠ ⟨w, written, span⟩ :: rest :=
      fun _ _ _ same => expected ⟨_, _, _, same⟩
    rw [fails _ _ other, fails _ _ (r.map_ne_cons other), missing_moved]
    rfl

theorem moved_expectKeyword (k : Keyword) (ts : List Token) :
    outcome (expectKeyword (r.mark finish) k (ts.map r.token)) =
      r.outcome (r.extent id) (outcome (expectKeyword finish k ts)) := by
  refine @moved_expect r (fun finish => expectKeyword finish k) (.keyword k) "keyword" k.word
    (fun _ => outcome_expectKeyword k) ?_ finish ts
  intro finish ts other
  unfold expectKeyword
  split
  · rw [if_neg]
    · rfl
    · rintro rfl
      exact other _ _ _ rfl
  · rfl

theorem moved_expectColon (ts : List Token) :
    outcome (expectColon (r.mark finish) (ts.map r.token)) =
      r.outcome (r.extent id) (outcome (expectColon finish ts)) := by
  refine @moved_expect r _ (.operator .colon) "operator" ":" (fun _ _ _ _ => rfl) ?_ finish ts
  intro finish ts other
  unfold expectColon
  split
  · exact absurd rfl (other _ _ _)
  · rfl

theorem moved_expectRightParen (ts : List Token) :
    outcome (expectRightParen (r.mark finish) (ts.map r.token)) =
      r.outcome (r.extent id) (outcome (expectRightParen finish ts)) := by
  refine @moved_expect r _ .rightParen "parenthesis" ")" (fun _ _ _ _ => rfl) ?_ finish ts
  intro finish ts other
  unfold expectRightParen
  split
  · exact absurd rfl (other _ _ _)
  · rfl

theorem moved_expectRightBracket (ts : List Token) :
    outcome (expectRightBracket (r.mark finish) (ts.map r.token)) =
      r.outcome (r.extent id) (outcome (expectRightBracket finish ts)) := by
  refine @moved_expect r _ .rightBracket "square bracket" "]" (fun _ _ _ _ => rfl) ?_ finish ts
  intro finish ts other
  unfold expectRightBracket
  split
  · exact absurd rfl (other _ _ _)
  · rfl

/-! ## Assignments and conditionals -/

/-- What is read of tokens as an expression of a category follows their places. -/
def Follows (r : Relocation) (finish : Mark) (c : Category) (ts : List Token) : Prop :=
  read (r.mark finish) c (ts.map r.token) = r.outcome (r.extent r.rule) (read finish c ts)

theorem closesTarget_moved : ClosesTarget (ts.map r.token) ↔ ClosesTarget ts := by
  constructor
  · rintro ⟨closing, closingSpan, sign, signSpan, rest, same⟩
    obtain ⟨place, more, rfl⟩ := r.exists_of_map_eq_cons same
    rw [List.map_cons] at same
    obtain ⟨signPlace, rest, rfl⟩ := r.exists_of_map_eq_cons (List.cons.inj same).2
    exact ⟨_, _, _, _, _, rfl⟩
  · rintro ⟨closing, closingSpan, sign, signSpan, rest, rfl⟩
    exact ⟨_, _, _, _, _, rfl⟩

theorem follows_assignment
    (shorter : ∀ us : List Token, us.length < ts.length → Follows r finish .assignment us)
    (conditional : Follows r finish .conditional ts) : Follows r finish .assignment ts := by
  change outcome (assignment (r.mark finish) _) =
    r.outcome (r.extent r.rule) (outcome (assignment finish ts))
  by_cases name : ∃ x written start sign span rest,
      ts = ⟨.name x, written, start⟩ :: ⟨.operator .assign, sign, span⟩ :: rest
  · obtain ⟨x, written, start, sign, span, rest, rfl⟩ := name
    rw [outcome_assign]
    refine (outcome_assign x written _ sign _ _).trans ?_
    apply r.outcome_bind (shorter rest (by simp only [List.length_cons]; omega))
    intro value _
    rw [r.extent_last, through_moved]
    rfl
  by_cases item : ∃ x written start opening span rest,
      ts = ⟨.name x, written, start⟩ :: ⟨.leftBracket, opening, span⟩ :: rest
  · obtain ⟨x, written, start, opening, span, rest, rfl⟩ := item
    by_cases closes : ClosesTarget rest
    · obtain ⟨closing, closingSpan, sign, signSpan, following, rfl⟩ := closes
      rw [outcome_append]
      refine (outcome_append x written _ opening _ closing _ sign _ _).trans ?_
      apply r.outcome_bind (shorter following (by simp only [List.length_cons]; omega))
      intro value _
      rw [r.extent_last, through_moved]
      rfl
    have closesMoved : ¬ClosesTarget (rest.map r.token) := closesTarget_moved.not.mpr closes
    have restMoved : outcome (assignment (r.mark finish) (rest.map r.token)) =
        r.outcome (r.extent r.rule) (outcome (assignment finish rest)) :=
      shorter rest (by simp only [List.length_cons]; omega)
    by_cases target : ∃ position last us,
        outcome (assignment finish rest) = .ok ⟨position, last, us⟩ ∧ ClosesTarget us
    · obtain ⟨position, last, _, positionRead, closing, closingSpan, sign, signSpan, following,
        rfl⟩ := target
      have bound := length_lt_of_outcome positionRead
      simp only [List.length_cons] at bound
      rw [positionRead] at restMoved
      rw [outcome_assignItem closes positionRead]
      refine (outcome_assignItem closesMoved restMoved x written _ opening _).trans ?_
      apply r.outcome_bind (shorter following (by simp only [List.length_cons]; omega))
      intro value _
      rw [r.extent_last, through_moved]
      rfl
    · rw [outcome_bracket closes fun position last us read closes =>
        target ⟨position, last, us, read, closes⟩]
      refine Eq.trans (outcome_bracket closesMoved ?_ x written _ opening _) conditional
      intro position last us read closes
      rw [restMoved] at read
      cases found : outcome (assignment finish rest) with
      | error f =>
          rw [found] at read
          cases read
      | ok e =>
          rw [found] at read
          cases read
          exact target ⟨_, _, _, found, closesTarget_moved.mp closes⟩
  · rw [outcome_unassigned, outcome_unassigned]
    · exact conditional
    · exact fun _ _ _ _ _ _ same => name ⟨_, _, _, _, _, _, same⟩
    · exact fun _ _ _ _ _ _ same => item ⟨_, _, _, _, _, _, same⟩
    · intro x written start sign span rest same
      obtain ⟨place, more, rfl⟩ := r.exists_of_map_eq_cons same
      obtain ⟨signPlace, more, rfl⟩ := r.exists_of_map_eq_cons (List.cons.inj same).2
      exact name ⟨_, _, _, _, _, _, rfl⟩
    · intro x written start opening span rest same
      obtain ⟨place, more, rfl⟩ := r.exists_of_map_eq_cons same
      obtain ⟨openingPlace, more, rfl⟩ := r.exists_of_map_eq_cons (List.cons.inj same).2
      exact item ⟨_, _, _, _, _, _, rfl⟩

theorem branchAfter_end {yes : Extent Rule}
    (ends : ∀ written span rest, yes.rest ≠ ⟨.keyword .elseBranch, written, span⟩ :: rest)
    (start : Span) (condition : Rule) :
    branchAfter finish start condition yes = (do
      let close ← outcome (expectKeyword finish .endIf yes.rest)
      return ⟨.conditional (through start close.last) condition yes.value none, close.last,
        close.rest⟩) := by
  unfold branchAfter
  split
  · next same => exact absurd same (ends _ _ _)
  · rfl

theorem choiceAfter_end {condition : Extent Rule}
    (ends : ∀ written span rest, condition.rest ≠ ⟨.operator .question, written, span⟩ :: rest)
    (start : Span) : choiceAfter finish start condition = .ok condition := by
  unfold choiceAfter
  split
  · next same => exact absurd same (ends _ _ _)
  · rfl

theorem moved_branchAfter {yes : Extent Rule}
    (shorter : ∀ us : List Token, us.length < yes.rest.length → Follows r finish .assignment us)
    (start : Span) (condition : Rule) :
    branchAfter (r.mark finish) (r.span start) (r.rule condition) (r.extent r.rule yes) =
      r.outcome (r.extent r.rule) (branchAfter finish start condition yes) := by
  by_cases other : ∃ written span rest,
      yes.rest = ⟨.keyword .elseBranch, written, span⟩ :: rest
  · obtain ⟨value, last, _⟩ := yes
    obtain ⟨written, span, rest, rfl⟩ := other
    apply r.outcome_bind (shorter rest (Nat.lt_succ_self _))
    intro no _
    apply r.outcome_bind (moved_expectKeyword .endIf no.rest)
    intro close _
    rw [r.extent_last, through_moved]
    rfl
  · have ends : ∀ written span rest,
        yes.rest ≠ ⟨.keyword .elseBranch, written, span⟩ :: rest :=
      fun _ _ _ same => other ⟨_, _, _, same⟩
    rw [branchAfter_end ends, branchAfter_end (r.map_ne_cons ends)]
    apply r.outcome_bind (moved_expectKeyword .endIf yes.rest)
    intro close _
    rw [r.extent_last, through_moved]
    rfl

theorem moved_choiceAfter {condition : Extent Rule}
    (shorter : ∀ us : List Token, us.length < condition.rest.length →
      Follows r finish .conditional us)
    (start : Span) :
    choiceAfter (r.mark finish) (r.span start) (r.extent r.rule condition) =
      r.outcome (r.extent r.rule) (choiceAfter finish start condition) := by
  by_cases other : ∃ written span rest,
      condition.rest = ⟨.operator .question, written, span⟩ :: rest
  · obtain ⟨value, last, _⟩ := condition
    obtain ⟨written, span, rest, rfl⟩ := other
    apply r.outcome_bind (shorter rest (Nat.lt_succ_self _))
    intro yes yesRead
    have yesShorter := length_lt_of_read yesRead
    apply r.outcome_bind (moved_expectColon yes.rest)
    intro colon colonRead
    have colonShorter := length_lt_of_outcome colonRead
    apply r.outcome_bind (shorter colon.rest (by simp only [List.length_cons]; omega))
    intro no _
    rw [r.extent_last, through_moved]
    rfl
  · have ends : ∀ written span rest,
        condition.rest ≠ ⟨.operator .question, written, span⟩ :: rest :=
      fun _ _ _ same => other ⟨_, _, _, same⟩
    rw [choiceAfter_end ends, choiceAfter_end (r.map_ne_cons ends)]
    rfl

theorem follows_conditional (operation : Follows r finish (.operation .disjunction) ts)
    (shorter : ∀ c (us : List Token), us.length < ts.length → Follows r finish c us) :
    Follows r finish .conditional ts := by
  change outcome (conditional (r.mark finish) _) =
    r.outcome (r.extent r.rule) (outcome (conditional finish ts))
  by_cases isIf : ∃ written start rest, ts = ⟨.keyword .ifThen, written, start⟩ :: rest
  · obtain ⟨written, start, rest, rfl⟩ := isIf
    have bounded (c : Category) (us : List Token) (bound : us.length ≤ rest.length) :
        Follows r finish c us := shorter c us (by simp only [List.length_cons]; omega)
    rw [outcome_if]
    refine (outcome_if written _ _).trans ?_
    apply r.outcome_bind (bounded (.operation .disjunction) rest (Nat.le_refl _))
    intro condition conditionRead
    have conditionShorter := length_lt_of_read conditionRead
    apply r.outcome_bind (moved_expectKeyword .thenBranch condition.rest)
    intro word wordRead
    have wordShorter := length_lt_of_outcome wordRead
    apply r.outcome_bind (bounded .assignment word.rest (by omega))
    intro yes yesRead
    have yesShorter := length_lt_of_read yesRead
    exact moved_branchAfter (fun us bound => bounded .assignment us (by omega)) start _
  · have notIf : ∀ written start rest, ts ≠ ⟨.keyword .ifThen, written, start⟩ :: rest :=
      fun _ _ _ same => isIf ⟨_, _, _, same⟩
    rw [outcome_conditional notIf, outcome_conditional (r.map_ne_cons notIf), here_moved]
    apply r.outcome_bind operation
    intro condition conditionRead
    have conditionShorter := length_lt_of_read conditionRead
    exact moved_choiceAfter (fun us bound => shorter .conditional us (by omega)) _

/-! ## Operations -/

theorem endsOperation_moved {level : Nat} (ends : EndsOperation level ts) :
    EndsOperation level (ts.map r.token) := by
  intro sign written span rest same
  obtain ⟨place, before, same⟩ := r.exists_of_map_eq_cons same
  exact ends _ _ _ _ same

theorem moved_binaryRest {l : Level} {start : Span} {left : Rule} {last : Nat} {ts : List Token}
    (shorter : ∀ us : List Token, us.length < ts.length → Follows r finish l.operand us) :
    outcome (binaryRest (r.mark finish) l.tighter (r.span start) (r.rule left) (r.stop last)
        (ts.map r.token)) =
      r.outcome (r.extent r.rule) (outcome (binaryRest finish l.tighter start left last ts)) := by
  by_cases goesOn : EndsOperation (l.tighter + 1) ts
  · rw [outcome_binaryRest_end goesOn, outcome_binaryRest_end (endsOperation_moved goesOn)]
    rfl
  · simp only [EndsOperation, not_forall] at goesOn
    obtain ⟨sign, written, span, rest, same, joins⟩ := goesOn
    obtain ⟨op, joins⟩ := Option.ne_none_iff_exists'.mp joins
    have restShorter : rest.length < ts.length := by simp [same]
    rw [same, outcome_binaryRest_sign joins]
    refine (outcome_binaryRest_sign joins _ _ _ written _ _).trans ?_
    have restFollows := shorter rest restShorter
    unfold Follows at restFollows
    rw [read_operand, read_operand] at restFollows
    apply r.outcome_bind restFollows
    intro right rightRead
    have rightShorter := length_lt_of_outcome rightRead
    rw [r.extent_last, through_moved, r.extent_value, node_moved]
    exact moved_binaryRest fun us bound => shorter us (by omega)
termination_by ts.length
decreasing_by omega

theorem follows_operation {l : Level} (operand : Follows r finish l.operand ts)
    (shorter : ∀ us : List Token, us.length < ts.length → Follows r finish l.operand us) :
    Follows r finish (.operation l) ts := by
  unfold Follows
  rw [read_operation, read_operation, here_moved]
  apply r.outcome_bind operand
  intro first firstRead
  have firstShorter := length_lt_of_read firstRead
  exact moved_binaryRest fun us bound => shorter us (by omega)

theorem follows_negation (keyword : Follows r finish .keyword ts)
    (shorter : ∀ us : List Token, us.length < ts.length → Follows r finish .negation us) :
    Follows r finish .negation ts := by
  change outcome (negation (r.mark finish) _) =
    r.outcome (r.extent r.rule) (outcome (negation finish ts))
  by_cases negated : ∃ written start rest, ts = ⟨.operator .not, written, start⟩ :: rest
  · obtain ⟨written, start, rest, rfl⟩ := negated
    rw [outcome_not]
    refine (outcome_not written _ _).trans ?_
    apply r.outcome_bind (shorter rest (Nat.lt_succ_self _))
    intro operand _
    rw [r.extent_last, through_moved]
    rfl
  · have notNegated : ∀ written start rest, ts ≠ ⟨.operator .not, written, start⟩ :: rest :=
      fun _ _ _ same => negated ⟨_, _, _, same⟩
    rw [outcome_affirmed notNegated, outcome_affirmed (r.map_ne_cons notNegated)]
    exact keyword

theorem keywordAfter_end {left : Extent Rule}
    (ends : ∀ k written span rest, left.rest = ⟨.keyword k, written, span⟩ :: rest →
      keywordOp? k = none)
    (start : Span) : keywordAfter finish start left = .ok left := by
  unfold keywordAfter
  split
  · next same =>
      rw [ends _ _ _ _ same]
      rfl
  · rfl

theorem keywordAfter_keyword {k : Keyword} {op : KeywordOp} (relates : keywordOp? k = some op)
    (value : Rule) (last : Nat) (written : String) (span start : Span) (rest : List Token) :
    keywordAfter finish start ⟨value, last, ⟨.keyword k, written, span⟩ :: rest⟩ = (do
      let right ← outcome (signed finish rest)
      return ⟨.keyword (through start right.last) op value right.value, right.last,
        right.rest⟩) := by
  simp only [keywordAfter, relates]

theorem follows_keyword (signed : Follows r finish .signed ts)
    (shorter : ∀ us : List Token, us.length < ts.length → Follows r finish .signed us) :
    Follows r finish .keyword ts := by
  change outcome (keywordOperation (r.mark finish) _) =
    r.outcome (r.extent r.rule) (outcome (keywordOperation finish ts))
  rw [outcome_keywordOperation, outcome_keywordOperation, here_moved]
  apply r.outcome_bind signed
  intro left leftRead
  have leftShorter := length_lt_of_read leftRead
  by_cases related : ∃ k written span rest op,
      left.rest = ⟨.keyword k, written, span⟩ :: rest ∧ keywordOp? k = some op
  · obtain ⟨value, last, _⟩ := left
    obtain ⟨k, written, span, rest, op, rfl, relates⟩ := related
    rw [keywordAfter_keyword relates]
    refine (keywordAfter_keyword relates _ _ written _ _ _).trans ?_
    simp only [List.length_cons] at leftShorter
    apply r.outcome_bind (shorter rest (by omega))
    intro right _
    rw [r.extent_last, through_moved]
    rfl
  · have ends : ∀ k written span rest, left.rest = ⟨.keyword k, written, span⟩ :: rest →
        keywordOp? k = none := by
      intro k written span rest same
      apply Option.eq_none_iff_forall_ne_some.mpr
      intro op relates
      exact related ⟨k, written, span, rest, op, same, relates⟩
    rw [keywordAfter_end ends, keywordAfter_end]
    · rfl
    · intro k written span rest same
      obtain ⟨place, before, same⟩ := r.exists_of_map_eq_cons same
      exact ends _ _ _ _ same

theorem follows_signed (indexed : Follows r finish .indexed ts)
    (shorter : ∀ us : List Token, us.length < ts.length → Follows r finish .signed us) :
    Follows r finish .signed ts := by
  change outcome (Parser.signed (r.mark finish) _) =
    r.outcome (r.extent r.rule) (outcome (Parser.signed finish ts))
  by_cases hasSign : ∃ sign written start rest op,
      ts = ⟨.operator sign, written, start⟩ :: rest ∧ signOp? sign = some op
  · obtain ⟨sign, written, start, rest, op, rfl, signs⟩ := hasSign
    rw [outcome_sign signs]
    refine (outcome_sign signs written _ _).trans ?_
    apply r.outcome_bind (shorter rest (Nat.lt_succ_self _))
    intro operand _
    rw [r.extent_last, through_moved]
    rfl
  · have notSigned : ∀ sign written start rest, ts = ⟨.operator sign, written, start⟩ :: rest →
        signOp? sign = none := by
      intro sign written start rest same
      apply Option.eq_none_iff_forall_ne_some.mpr
      intro op signs
      exact hasSign ⟨sign, written, start, rest, op, same, signs⟩
    rw [outcome_unsigned notSigned, outcome_unsigned]
    · exact indexed
    · intro sign written start rest same
      obtain ⟨place, before, same⟩ := r.exists_of_map_eq_cons same
      exact notSigned _ _ _ _ same

theorem moved_indexedRest {start : Span} {base : Rule} {last : Nat} {ts : List Token}
    (shorter : ∀ us : List Token, us.length < ts.length → Follows r finish .assignment us) :
    outcome (indexedRest (r.mark finish) (r.span start) (r.rule base) (r.stop last)
        (ts.map r.token)) =
      r.outcome (r.extent r.rule) (outcome (indexedRest finish start base last ts)) := by
  by_cases goesOn : ∃ written span rest, ts = ⟨.leftBracket, written, span⟩ :: rest
  · obtain ⟨written, span, rest, same⟩ := goesOn
    have restShorter : rest.length < ts.length := by simp [same]
    rw [same, outcome_indexedRest_bracket]
    refine (outcome_indexedRest_bracket _ _ _ written _ _).trans ?_
    apply r.outcome_bind (shorter rest restShorter)
    intro position positionRead
    have positionShorter := length_lt_of_read positionRead
    apply r.outcome_bind (moved_expectRightBracket position.rest)
    intro close closeRead
    have closeShorter := length_lt_of_outcome closeRead
    rw [r.extent_last, through_moved]
    exact @moved_indexedRest start (.index (through start close.last) base position.value)
      close.last close.rest fun us bound => shorter us (by omega)
  · have ends : ∀ written span rest, ts ≠ ⟨.leftBracket, written, span⟩ :: rest :=
      fun _ _ _ same => goesOn ⟨_, _, _, same⟩
    rw [outcome_indexedRest_end ends, outcome_indexedRest_end (r.map_ne_cons ends)]
    rfl
termination_by ts.length
decreasing_by omega

theorem follows_indexed (primary : Follows r finish .primary ts)
    (shorter : ∀ us : List Token, us.length < ts.length → Follows r finish .assignment us) :
    Follows r finish .indexed ts := by
  change outcome (Parser.indexed (r.mark finish) _) =
    r.outcome (r.extent r.rule) (outcome (Parser.indexed finish ts))
  rw [outcome_indexed, outcome_indexed, here_moved]
  apply r.outcome_bind primary
  intro base baseRead
  have baseShorter := length_lt_of_read baseRead
  exact moved_indexedRest fun us bound => shorter us (by omega)

/-! ## Items, statements and primaries -/

theorem itemsAfter_end {first : Extent Rule}
    (ends : ∀ written span rest, first.rest ≠ ⟨.comma, written, span⟩ :: rest) :
    itemsAfter finish first = .ok ⟨[first.value], first.last, first.rest⟩ := by
  unfold itemsAfter
  split
  · next same => exact absurd same (ends _ _ _)
  · rfl

theorem moved_items {ts : List Token}
    (follows : ∀ us : List Token, us.length ≤ ts.length → Follows r finish .assignment us) :
    outcome (items (r.mark finish) (ts.map r.token)) =
      r.outcome (r.extent (List.map r.rule)) (outcome (items finish ts)) := by
  rw [outcome_items, outcome_items]
  apply r.outcome_bind (follows ts (Nat.le_refl _))
  intro first firstRead
  have firstShorter := length_lt_of_read firstRead
  by_cases goesOn : ∃ written span rest, first.rest = ⟨.comma, written, span⟩ :: rest
  · obtain ⟨value, last, _⟩ := first
    obtain ⟨written, span, rest, rfl⟩ := goesOn
    have restShorter : rest.length < ts.length := Nat.lt_of_succ_lt firstShorter
    apply r.outcome_bind (moved_items fun us bound => follows us (by omega))
    intro more _
    rfl
  · have ends : ∀ written span rest, first.rest ≠ ⟨.comma, written, span⟩ :: rest :=
      fun _ _ _ same => goesOn ⟨_, _, _, same⟩
    rw [itemsAfter_end ends, itemsAfter_end (r.map_ne_cons ends)]
    rfl
termination_by ts.length
decreasing_by omega

theorem statementsAfter_end {enclosed : Bool} {first : Extent Rule}
    (ends : ∀ written span rest, first.rest ≠ ⟨.semicolon, written, span⟩ :: rest) :
    statementsAfter finish enclosed first = .ok ⟨[first.value], first.last, first.rest⟩ := by
  unfold statementsAfter
  split
  · next same => exact absurd same (ends _ _ _)
  · rfl

theorem moved_statements {enclosed : Bool} {last : Nat} {ts : List Token}
    (follows : ∀ us : List Token, us.length ≤ ts.length → Follows r finish .assignment us) :
    outcome (statements (r.mark finish) enclosed (r.stop last) (ts.map r.token)) =
      r.outcome (r.extent (List.map r.rule)) (outcome (statements finish enclosed last ts)) := by
  by_cases empty : ts = []
  · rw [empty, outcome_statements_nil]
    exact outcome_statements_nil _ _
  obtain ⟨⟨lexeme, written, span⟩, rest, same⟩ := List.exists_cons_of_ne_nil empty
  have restShorter : rest.length < ts.length := by simp [same]
  by_cases skips : lexeme = .semicolon
  · rw [same, skips, outcome_statements_skip]
    refine (outcome_statements_skip _ _ written _ _).trans ?_
    exact moved_statements fun us bound => follows us (by omega)
  by_cases closes : enclosed = true ∧ lexeme = .rightParen
  · obtain ⟨rfl, rfl⟩ := closes
    rw [same, outcome_statements_close]
    exact outcome_statements_close _ written _ _
  · have tsFollows := follows ts (Nat.le_refl _)
    rw [same] at tsFollows
    rw [same, outcome_statements_cons last skips closes]
    refine (outcome_statements_cons (t := r.token ⟨lexeme, written, span⟩) _ skips closes).trans ?_
    apply r.outcome_bind tsFollows
    intro first firstRead
    have firstShorter := length_lt_of_read firstRead
    rw [← same] at firstShorter
    by_cases goesOn : ∃ written span rest, first.rest = ⟨.semicolon, written, span⟩ :: rest
    · obtain ⟨value, firstLast, _⟩ := first
      obtain ⟨sign, signSpan, following, rfl⟩ := goesOn
      have followingShorter : following.length < ts.length := Nat.lt_of_succ_lt firstShorter
      apply r.outcome_bind (moved_statements fun us bound => follows us (by omega))
      intro more _
      rfl
    · have ends : ∀ written span rest, first.rest ≠ ⟨.semicolon, written, span⟩ :: rest :=
        fun _ _ _ same => goesOn ⟨_, _, _, same⟩
      rw [statementsAfter_end ends, statementsAfter_end (r.map_ne_cons ends)]
      rfl
termination_by ts.length
decreasing_by all_goals omega

/-- No primary begins with a keyword that is no literal. -/
theorem outcome_primary_keyword {k : Keyword} (noValue : keywordValue? k = none)
    (finish : Mark) (written : String) (span : Span) (rest : List Token) :
    outcome (primary finish (⟨.keyword k, written, span⟩ :: rest)) =
      .error (if (keywordOp? k).isSome then
        unexpected finish (⟨.keyword k, written, span⟩ :: rest)
      else ⟨.unrecognisedKeyword k.word, span⟩) := by
  rw [primary]
  simp only [noValue]
  split <;> rfl

/-- A token with which no primary begins is unexpected. -/
theorem outcome_primary_unexpected {w : Lexeme} (noLiteral : ∀ v, ¬Literal w v)
    (noKeyword : ∀ k, w ≠ .keyword k) (noName : ∀ x, w ≠ .name x) (noParen : w ≠ .leftParen)
    (noBracket : w ≠ .leftBracket) (finish : Mark) (written : String) (span : Span)
    (rest : List Token) :
    outcome (primary finish (⟨w, written, span⟩ :: rest)) =
      .error (unexpected finish (⟨w, written, span⟩ :: rest)) := by
  cases w with
  | int n => exact absurd (.int n) (noLiteral _)
  | float x => exact absurd (.float x) (noLiteral _)
  | text s => exact absurd (.text s) (noLiteral _)
  | keyword k => exact absurd rfl (noKeyword k)
  | name x => exact absurd rfl (noName x)
  | leftParen => exact absurd rfl noParen
  | leftBracket => exact absurd rfl noBracket
  | _ => rw [primary] <;> first | rfl | simp

theorem follows_name {x written : String} {span : Span} {rest : List Token}
    (shorter : ∀ us : List Token, us.length ≤ rest.length → Follows r finish .assignment us) :
    Follows r finish .primary (⟨.name x, written, span⟩ :: rest) := by
  change outcome (primary (r.mark finish) _) =
    r.outcome (r.extent r.rule) (outcome (primary finish _))
  by_cases isCall : ∃ opening start following,
      rest = ⟨.leftParen, opening, start⟩ :: following
  · obtain ⟨opening, start, following, rfl⟩ := isCall
    by_cases empty : ∃ closing stop after, following = ⟨.rightParen, closing, stop⟩ :: after
    · obtain ⟨closing, stop, after, rfl⟩ := empty
      rw [outcome_callNothing]
      refine (outcome_callNothing x written _ opening _ closing _ _).trans ?_
      exact congrArg (fun place => Except.ok (Extent.mk (Expr.call place x []) (r.stop stop.stop)
        (after.map r.token))) (through_moved span stop.stop)
    · have notEmpty : ∀ closing stop after,
          following ≠ ⟨.rightParen, closing, stop⟩ :: after :=
        fun _ _ _ same => empty ⟨_, _, _, same⟩
      rw [outcome_call notEmpty]
      refine (outcome_call (r.map_ne_cons notEmpty) x written _ opening _).trans ?_
      apply r.outcome_bind
        (moved_items fun us bound => shorter us (by simp only [List.length_cons]; omega))
      intro args _
      apply r.outcome_bind (moved_expectRightParen args.rest)
      intro close _
      rw [r.extent_last, through_moved]
      simp only [pure, Except.pure, Relocation.outcome, Relocation.extent, Relocation.rule,
        Expr.map, mapAll_eq_map]
      rfl
  · have notCall : ∀ opening start following,
        rest ≠ ⟨.leftParen, opening, start⟩ :: following :=
      fun _ _ _ same => isCall ⟨_, _, _, same⟩
    rw [outcome_var notCall]
    exact outcome_var (r.map_ne_cons notCall) x written _

theorem follows_parentheses {written : String} {span : Span} {rest : List Token}
    (shorter : ∀ us : List Token, us.length ≤ rest.length → Follows r finish .assignment us) :
    Follows r finish .primary (⟨.leftParen, written, span⟩ :: rest) := by
  change outcome (primary (r.mark finish) _) =
    r.outcome (r.extent r.rule) (outcome (primary finish _))
  by_cases empty : ∃ closing stop after, rest = ⟨.rightParen, closing, stop⟩ :: after
  · obtain ⟨closing, stop, after, rfl⟩ := empty
    have fails (finish : Mark) (span stop : Span) (after : List Token) :
        outcome (primary finish (⟨.leftParen, written, span⟩ ::
          ⟨.rightParen, closing, stop⟩ :: after)) =
            .error (unexpected finish (⟨.rightParen, closing, stop⟩ :: after)) := by
      rw [primary]
      rfl
    rw [fails]
    refine (fails _ _ _ _).trans ?_
    exact congrArg Except.error
      (unexpected_moved finish (⟨.rightParen, closing, stop⟩ :: after))
  · have notEmpty : ∀ closing stop after, rest ≠ ⟨.rightParen, closing, stop⟩ :: after :=
      fun _ _ _ same => empty ⟨_, _, _, same⟩
    rw [outcome_parentheses notEmpty]
    refine (outcome_parentheses (r.map_ne_cons notEmpty) written _).trans ?_
    apply r.outcome_bind (moved_statements shorter)
    intro body _
    apply r.outcome_bind (moved_expectRightParen body.rest)
    intro close _
    rw [here_moved, r.extent_last, r.extent_value, block_moved]
    rfl

theorem follows_list {written : String} {span : Span} {rest : List Token}
    (shorter : ∀ us : List Token, us.length ≤ rest.length → Follows r finish .assignment us) :
    Follows r finish .primary (⟨.leftBracket, written, span⟩ :: rest) := by
  change outcome (primary (r.mark finish) _) =
    r.outcome (r.extent r.rule) (outcome (primary finish _))
  by_cases empty : ∃ closing stop after, rest = ⟨.rightBracket, closing, stop⟩ :: after
  · obtain ⟨closing, stop, after, rfl⟩ := empty
    rw [outcome_emptyList]
    refine (outcome_emptyList written _ closing _ _).trans ?_
    exact congrArg (fun place => Except.ok (Extent.mk (Expr.list place []) (r.stop stop.stop)
      (after.map r.token))) (through_moved span stop.stop)
  · have notEmpty : ∀ closing stop after, rest ≠ ⟨.rightBracket, closing, stop⟩ :: after :=
      fun _ _ _ same => empty ⟨_, _, _, same⟩
    rw [outcome_list notEmpty]
    refine (outcome_list (r.map_ne_cons notEmpty) written _).trans ?_
    apply r.outcome_bind (moved_items shorter)
    intro members _
    apply r.outcome_bind (moved_expectRightBracket members.rest)
    intro close _
    rw [r.extent_last, through_moved]
    simp only [pure, Except.pure, Relocation.outcome, Relocation.extent, Relocation.rule,
      Expr.map, mapAll_eq_map]
    rfl

theorem follows_unexpected
    (fails : outcome (primary finish ts) = .error (unexpected finish ts))
    (failsMoved : outcome (primary (r.mark finish) (ts.map r.token)) =
      .error (unexpected (r.mark finish) (ts.map r.token))) :
    Follows r finish .primary ts := by
  change outcome (primary (r.mark finish) _) =
    r.outcome (r.extent r.rule) (outcome (primary finish _))
  rw [fails, failsMoved, unexpected_moved]
  rfl

theorem follows_otherKeyword {k : Keyword} (noLiteral : ∀ v, ¬Literal (.keyword k) v)
    (written : String) (span : Span) (rest : List Token) :
    Follows r finish .primary (⟨.keyword k, written, span⟩ :: rest) := by
  have noValue : keywordValue? k = none := by
    apply Option.eq_none_iff_forall_ne_some.mpr
    intro v value
    apply noLiteral v
    cases k <;> cases value <;> constructor
  change outcome (primary (r.mark finish) _) =
    r.outcome (r.extent r.rule) (outcome (primary finish _))
  rw [outcome_primary_keyword noValue]
  refine (outcome_primary_keyword noValue _ written _ _).trans ?_
  split
  · exact congrArg Except.error
      (unexpected_moved finish (⟨.keyword k, written, span⟩ :: rest))
  · rfl

theorem follows_primary
    (shorter : ∀ us : List Token, us.length < ts.length → Follows r finish .assignment us) :
    Follows r finish .primary ts := by
  rcases ts with _ | ⟨⟨lexeme, written, span⟩, rest⟩
  · have fails (finish : Mark) : outcome (primary finish []) = .error (unexpected finish []) := by
      rw [primary] <;> first | rfl | simp
    exact follows_unexpected (fails _) (fails _)
  have bounded (us : List Token) (bound : us.length ≤ rest.length) :
      Follows r finish .assignment us :=
    shorter us (by simp only [List.length_cons]; omega)
  by_cases literal : ∃ v, Literal lexeme v
  · obtain ⟨v, literal⟩ := literal
    have reads (finish : Mark) (span : Span) :=
      @outcome_literal finish lexeme v literal written span
    exact (reads _ _ _).trans (congrArg (r.outcome (r.extent r.rule)) (reads _ _ _)).symm
  have noLiteral : ∀ v, ¬Literal lexeme v := fun v is => literal ⟨v, is⟩
  cases lexeme with
  | name x => exact follows_name bounded
  | leftParen => exact follows_parentheses bounded
  | leftBracket => exact follows_list bounded
  | keyword k => exact follows_otherKeyword noLiteral _ _ _
  | _ =>
      have fails := outcome_primary_unexpected noLiteral (by simp) (by simp) (by simp) (by simp)
      exact follows_unexpected (fails _ _ _ _) (fails _ _ _ _)

/-! ## Rules -/

/-- Whatever is read as an expression of a category follows the places of the tokens. -/
theorem follows (r : Relocation) (finish : Mark) (c : Category) (ts : List Token) :
    Follows r finish c ts := by
  induction h : ts.length using Nat.strongRecOn generalizing c ts with
  | _ n ih =>
  subst h
  have shorter (c : Category) (us : List Token) (bound : us.length < ts.length) :
      Follows r finish c us := ih us.length bound c us rfl
  have primary := follows_primary (shorter .assignment)
  have indexed := follows_indexed primary (shorter .assignment)
  have signed := follows_signed indexed (shorter .signed)
  have keyword := follows_keyword signed (shorter .signed)
  have negation := follows_negation keyword (shorter .negation)
  have power := follows_operation (l := .power) negation (shorter _)
  have product := follows_operation (l := .product) power (shorter _)
  have sum := follows_operation (l := .sum) product (shorter _)
  have relation := follows_operation (l := .relation) sum (shorter _)
  have equality := follows_operation (l := .equality) relation (shorter _)
  have conjunction := follows_operation (l := .conjunction) equality (shorter _)
  have disjunction := follows_operation (l := .disjunction) conjunction (shorter _)
  have conditional := follows_conditional disjunction shorter
  have assignment := follows_assignment (shorter .assignment) conditional
  cases c with
  | operation l => cases l <;> assumption
  | _ => assumption

theorem parse_eq (ts : Tokens) :
    ts.parse = (do
      let body ← outcome (statements ts.finish false 0 ts.tokens)
      if body.rest.isEmpty then
        return block (here ts.finish ts.tokens) body.last body.value
      else
        throw ⟨.unexpectedAtEnd (found body.rest).1 (found body.rest).2,
          here ts.finish body.rest⟩) := by
  rw [Tokens.parse]
  cases statements ts.finish false 0 ts.tokens <;> rfl

/-- A rule that is read from tokens at other places is the same rule at other places, or has the
same problem at another place. -/
theorem parse_moved (r : Relocation) (ts : Tokens) :
    (r.tokens ts).parse = r.outcome r.rule ts.parse := by
  rw [parse_eq, parse_eq]
  have body := @moved_statements r ts.finish false 0 ts.tokens fun us _ =>
    follows r ts.finish .assignment us
  rw [r.stop_zero] at body
  apply r.outcome_bind body
  intro body _
  rw [r.extent_rest, List.isEmpty_map]
  split
  · rw [r.extent_last, r.extent_value]
    refine congrArg Except.ok ?_
    rw [← block_moved, ← here_moved]
    rfl
  · refine congrArg Except.error ?_
    rw [found_moved, Relocation.finding, ← here_moved]
    rfl

end Parser

end EditGuard.Rule
