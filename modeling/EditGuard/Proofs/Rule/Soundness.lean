import Mathlib.Logic.Basic
import EditGuard.Proofs.Rule.Productions
import EditGuard.Proofs.Stateful

/-!
# What the parser reads is derived

Whatever the parser reads as an expression of a category, the grammar derives from the
lexemes that were read, and the expression is laid out over their tokens.  The argument
follows the parser: each category is sound if the tighter ones are, and if all categories
are sound on shorter rows of tokens.
-/

namespace EditGuard.Rule

open Grammar

/-- The number by which the parser knows the operands of a level. -/
def Grammar.Level.tighter : Level → Nat
  | power => 0
  | product => 1
  | sum => 2
  | relation => 3
  | equality => 4
  | conjunction => 5
  | disjunction => 6

namespace Parser

theorem binaryOp?_eq_some_iff {l : Level} {sign : Operator} {op : BinaryOp} :
    binaryOp? (l.tighter + 1) sign = some op ↔ Joins l sign op := by
  constructor
  · cases l <;> cases sign <;> rintro ⟨⟩ <;> constructor
  · rintro ⟨⟩ <;> rfl

theorem keywordOp?_eq_some_iff {k : Keyword} {op : KeywordOp} :
    keywordOp? k = some op ↔ Relates k op := by
  constructor
  · cases k <;> rintro ⟨⟩ <;> constructor
  · rintro ⟨⟩ <;> rfl

theorem signOp?_eq_some_iff {sign : Operator} {op : UnaryOp} :
    signOp? sign = some op ↔ Signs sign op := by
  constructor
  · cases sign <;> rintro ⟨⟩ <;> constructor
  · rintro ⟨⟩ <;> rfl

theorem tree_node (op : BinaryOp) (span : Span) (l r : Rule) :
    tree (op.node span l r) = Grammar.node op (tree l) (tree r) := by
  cases op <;> rfl

theorem operands_node (op : BinaryOp) (span : Span) (l r : Rule) :
    (op.node span l r).operands = [l, r] := by
  cases op <;> rfl

theorem mark_node (op : BinaryOp) (span : Span) (l r : Rule) :
    (op.node span l r).mark = span := by
  cases op <;> rfl

theorem mapAll_eq_map {α β : Type} (f : α → β) (es : List (Expr α)) :
    Expr.mapAll f es = es.map (Expr.map f) := by
  induction es with
  | nil => rfl
  | cons e es ih => rw [Expr.mapAll, ih, List.map_cons]

theorem tree_call (span : Span) (f : String) (args : List Rule) :
    tree (.call span f args) = .call () f (trees args) :=
  congrArg (Expr.call () f) (mapAll_eq_map _ args)

theorem tree_list (span : Span) (items : List Rule) :
    tree (.list span items) = .list () (trees items) :=
  congrArg (Expr.list ()) (mapAll_eq_map _ items)

theorem tree_sequence (span : Span) (statements : List Rule) :
    tree (.sequence span statements) = .sequence () (trees statements) :=
  congrArg (Expr.sequence ()) (mapAll_eq_map _ statements)

theorem tree_block (start : Span) (last : Nat) (rules : List Rule) :
    tree (block start last rules) = Grammar.block (trees rules) := by
  rcases rules with _ | ⟨first, _ | ⟨second, more⟩⟩
  · rfl
  · rfl
  · exact tree_sequence _ _

/-! ## Reading a category -/

/-- Read an expression of a category. -/
def read (finish : Mark) : Category → List Token → Except Finding (Extent Rule)
  | .assignment, ts => outcome (assignment finish ts)
  | .conditional, ts => outcome (conditional finish ts)
  | .operation l, ts => outcome (binary finish (l.tighter + 1) ts)
  | .negation, ts => outcome (negation finish ts)
  | .keyword, ts => outcome (keywordOperation finish ts)
  | .signed, ts => outcome (signed finish ts)
  | .indexed, ts => outcome (indexed finish ts)
  | .primary, ts => outcome (primary finish ts)

variable {finish : Mark}

theorem length_lt_of_read {c : Category} {ts : List Token} {e : Extent Rule}
    (ended : read finish c ts = .ok e) : e.rest.length < ts.length := by
  cases c <;> exact length_lt_of_outcome ended

theorem read_operand (l : Level) (ts : List Token) :
    read finish l.operand ts = outcome (binary finish l.tighter ts) := by
  cases l with
  | power => exact (outcome_binary_zero ts).symm
  | _ => rfl

theorem read_operation (l : Level) (ts : List Token) :
    read finish (.operation l) ts = (do
      let first ← read finish l.operand ts
      outcome (binaryRest finish l.tighter (here finish ts) first.value first.last
        first.rest)) := by
  rw [read_operand]
  exact outcome_binary_succ l.tighter ts

/-- Tokens up to a rest yield an expression of a category: their lexemes derive its tree, it
is laid out over them, and the last one ends at a place. -/
structure Yields (c : Category) (ts rest : List Token) (e : Rule) (last : Nat) : Prop where
  derived : Derives c (lexemes ts) (lexemes rest) (tree e)
  laid : Laid ts rest [e]
  ends : EndsAt ts rest last

namespace Yields

variable {c d : Category} {ts rest : List Token} {es : List Rule} {e : Rule} {last : Nat}

/-- A production yields a node whose stretch goes from the first to the last token. -/
theorem node (finish : Mark) (builds : Builds c (lexemes ts) (lexemes rest) (tree e))
    (laid : Laid ts rest es) (ends : EndsAt ts rest last)
    (operands : e.operands = es)
    (mark : e.mark = through (here finish ts) last) : Yields c ts rest e last where
  derived := builds.derives
  laid := by
    refine .node ?_ (.expression builds) ?_
    · rwa [operands]
    · rw [mark]
      exact ends.spanned finish
  ends := ends

/-- What a category yields is passed on by a looser one. -/
theorem passed (yields : Yields c ts rest e last)
    (derives : ∀ {ws vs e}, Derives c ws vs e → Derives d ws vs e) : Yields d ts rest e last :=
  ⟨derives yields.derived, yields.laid, yields.ends⟩

end Yields

/-- What is read of tokens as an expression of a category is what they yield. -/
def Sound (finish : Mark) (c : Category) (ts : List Token) : Prop :=
  ∀ e, read finish c ts = .ok e → Yields c ts e.rest e.value e.last

/-! ## Assignments and conditionals -/

theorem sound_assignment {ts : List Token}
    (shorter : ∀ us : List Token, us.length < ts.length → Sound finish .assignment us)
    (conditional : Sound finish .conditional ts) : Sound finish .assignment ts := by
  intro e ended
  rw [read] at ended
  by_cases name : ∃ x written start sign span rest,
      ts = ⟨.name x, written, start⟩ :: ⟨.operator .assign, sign, span⟩ :: rest
  · obtain ⟨x, written, start, sign, span, rest, rfl⟩ := name
    rw [outcome_assign] at ended
    obtain ⟨value, valueRead, ended⟩ := exists_of_bind_eq_ok ended
    cases ended
    have valued := shorter rest (by simp only [List.length_cons]; omega) value valueRead
    exact .node finish (.assign valued.derived) ((valued.laid.cons _).cons _)
      ((valued.ends.cons _).cons _) rfl rfl
  by_cases item : ∃ x written start opening span rest,
      ts = ⟨.name x, written, start⟩ :: ⟨.leftBracket, opening, span⟩ :: rest
  · obtain ⟨x, written, start, opening, span, rest, rfl⟩ := item
    by_cases closes : ClosesTarget rest
    · obtain ⟨closing, closingSpan, sign, signSpan, following, rfl⟩ := closes
      rw [outcome_append] at ended
      obtain ⟨value, valueRead, ended⟩ := exists_of_bind_eq_ok ended
      cases ended
      have valued := shorter following (by simp only [List.length_cons]; omega) value valueRead
      exact .node finish (.append valued.derived) ((((valued.laid.cons _).cons _).cons _).cons _)
        ((((valued.ends.cons _).cons _).cons _).cons _) rfl rfl
    by_cases target : ∃ position last us,
        outcome (assignment finish rest) = .ok ⟨position, last, us⟩ ∧ ClosesTarget us
    · obtain ⟨position, last, _, positionRead, closing, closingSpan, sign, signSpan, following,
        rfl⟩ := target
      rw [outcome_assignItem closes positionRead] at ended
      obtain ⟨value, valueRead, ended⟩ := exists_of_bind_eq_ok ended
      cases ended
      have bound := length_lt_of_outcome positionRead
      simp only [List.length_cons] at bound
      have placed := shorter rest (by simp only [List.length_cons]; omega) _ positionRead
      have valued := shorter following (by simp only [List.length_cons]; omega) value valueRead
      exact .node finish (.assignItem placed.derived valued.derived)
        (((placed.laid.pass.pass.append valued.laid).cons _).cons _)
        (((placed.ends.trans ((valued.ends.cons _).cons _)).cons _).cons _) rfl rfl
    · rw [outcome_bracket closes fun position last us read closes =>
        target ⟨position, last, us, read, closes⟩] at ended
      exact (conditional e ended).passed .unassigned
  · rw [outcome_unassigned
      (fun _ _ _ _ _ _ same => name ⟨_, _, _, _, _, _, same⟩)
      (fun _ _ _ _ _ _ same => item ⟨_, _, _, _, _, _, same⟩)] at ended
    exact (conditional e ended).passed .unassigned

theorem sound_if {written : String} {start : Span} {rest : List Token}
    (shorter : ∀ c (us : List Token), us.length ≤ rest.length → Sound finish c us) :
    Sound finish .conditional (⟨.keyword .ifThen, written, start⟩ :: rest) := by
  intro e ended
  rw [read, outcome_if] at ended
  obtain ⟨condition, conditionRead, ended⟩ := exists_of_bind_eq_ok ended
  obtain ⟨word, wordRead, ended⟩ := exists_of_bind_eq_ok ended
  obtain ⟨yes, yesRead, ended⟩ := exists_of_bind_eq_ok ended
  have conditionShorter := length_lt_of_outcome conditionRead
  have wordShorter := length_lt_of_outcome wordRead
  have yesShorter := length_lt_of_outcome yesRead
  have conditioned :=
    shorter (.operation .disjunction) rest (Nat.le_refl _) condition conditionRead
  have agreed := shorter .assignment word.rest (by omega) yes yesRead
  obtain ⟨_, _, wordSame, -⟩ := eq_of_expectKeyword wordRead
  rw [wordSame] at conditioned
  unfold branchAfter at ended
  split at ended
  · rename_i elseWord elseSpan following yesSame
    obtain ⟨no, noRead, ended⟩ := exists_of_bind_eq_ok ended
    obtain ⟨close, closeRead, ended⟩ := exists_of_bind_eq_ok ended
    have followingShorter : following.length < yes.rest.length := by simp [yesSame]
    have refused := shorter .assignment following (by omega) no noRead
    obtain ⟨_, _, closeSame, closeLast⟩ := eq_of_expectKeyword closeRead
    cases ended
    rw [yesSame] at agreed
    rw [closeSame] at refused
    rw [closeLast]
    exact .node finish (.ifThenElse conditioned.derived agreed.derived refused.derived)
      ((conditioned.laid.pass.append (agreed.laid.pass.append refused.laid.pass)).cons _)
      ((conditioned.ends.trans ((agreed.ends.trans
        ((refused.ends.trans (.single _ _)).cons _)).cons _)).cons _) rfl rfl
  · obtain ⟨close, closeRead, ended⟩ := exists_of_bind_eq_ok ended
    obtain ⟨_, _, closeSame, closeLast⟩ := eq_of_expectKeyword closeRead
    cases ended
    rw [closeSame] at agreed
    rw [closeLast]
    exact .node finish (.ifThen conditioned.derived agreed.derived)
      ((conditioned.laid.pass.append agreed.laid.pass).cons _)
      ((conditioned.ends.trans ((agreed.ends.trans (.single _ _)).cons _)).cons _) rfl rfl

theorem sound_choice {ts : List Token}
    (notIf : ∀ written start rest, ts ≠ ⟨.keyword .ifThen, written, start⟩ :: rest)
    (operation : Sound finish (.operation .disjunction) ts)
    (shorter : ∀ us : List Token, us.length < ts.length → Sound finish .conditional us) :
    Sound finish .conditional ts := by
  intro e ended
  rw [read, outcome_conditional notIf] at ended
  obtain ⟨condition, conditionRead, ended⟩ := exists_of_bind_eq_ok ended
  have conditionShorter := length_lt_of_outcome conditionRead
  have conditioned := operation condition conditionRead
  unfold choiceAfter at ended
  split at ended
  · rename_i mark markSpan rest conditionSame
    obtain ⟨yes, yesRead, ended⟩ := exists_of_bind_eq_ok ended
    obtain ⟨colon, colonRead, ended⟩ := exists_of_bind_eq_ok ended
    obtain ⟨no, noRead, ended⟩ := exists_of_bind_eq_ok ended
    have restShorter : rest.length < condition.rest.length := by simp [conditionSame]
    have yesShorter := length_lt_of_outcome yesRead
    have colonShorter := length_lt_of_outcome colonRead
    have agreed := shorter rest (by omega) yes yesRead
    have refused := shorter colon.rest (by omega) no noRead
    obtain ⟨_, _, colonSame, -⟩ := eq_of_expectColon colonRead
    cases ended
    rw [conditionSame] at conditioned
    rw [colonSame] at agreed
    exact .node finish (.choice conditioned.derived agreed.derived refused.derived)
      (conditioned.laid.pass.append (agreed.laid.pass.append refused.laid))
      (conditioned.ends.trans ((agreed.ends.trans (refused.ends.cons _)).cons _)) rfl rfl
  · cases ended
    exact conditioned.passed .unconditional

theorem sound_conditional {ts : List Token}
    (operation : Sound finish (.operation .disjunction) ts)
    (shorter : ∀ c (us : List Token), us.length < ts.length → Sound finish c us) :
    Sound finish .conditional ts := by
  by_cases isIf : ∃ written start rest, ts = ⟨.keyword .ifThen, written, start⟩ :: rest
  · obtain ⟨written, start, rest, rfl⟩ := isIf
    apply sound_if
    intro c us bound
    exact shorter c us (by simp only [List.length_cons]; omega)
  · apply sound_choice
    · intro written start rest same
      exact isIf ⟨written, start, rest, same⟩
    · exact operation
    · exact shorter .conditional

/-! ## Operations -/

/-- Operations that go on from a left operand are yielded by all tokens from its first one. -/
theorem yields_binaryRest {l : Level} {us : List Token} {left : Rule} {last : Nat}
    {ts : List Token} {e : Extent Rule}
    (shorter : ∀ us : List Token, us.length < ts.length → Sound finish l.operand us)
    (leftYields : Yields (.operation l) us ts left last)
    (ended : outcome (binaryRest finish l.tighter (here finish us) left last ts) = .ok e) :
    Yields (.operation l) us e.rest e.value e.last := by
  by_cases goesOn : EndsOperation (l.tighter + 1) ts
  · rw [outcome_binaryRest_end goesOn] at ended
    cases ended
    exact leftYields
  · simp only [EndsOperation, not_forall] at goesOn
    obtain ⟨sign, written, span, rest, same, joins⟩ := goesOn
    obtain ⟨op, joins⟩ := Option.ne_none_iff_exists'.mp joins
    have restShorter : rest.length < ts.length := by simp [same]
    rw [same, outcome_binaryRest_sign joins] at ended
    obtain ⟨right, rightRead, ended⟩ := exists_of_bind_eq_ok ended
    rw [← read_operand] at rightRead
    have rightShorter := length_lt_of_read rightRead
    have rightYields := shorter rest restShorter right rightRead
    rw [same] at leftYields
    refine yields_binaryRest (fun us bound => shorter us (by omega)) (.node finish ?_
      (leftYields.laid.pass.append rightYields.laid)
      (leftYields.ends.trans (rightYields.ends.cons _)) (operands_node op _ _ _)
      (mark_node op _ _ _)) ended
    rw [tree_node]
    exact .operation (binaryOp?_eq_some_iff.mp joins) leftYields.derived rightYields.derived
termination_by ts.length
decreasing_by omega

theorem sound_operation {l : Level} {ts : List Token} (operand : Sound finish l.operand ts)
    (shorter : ∀ us : List Token, us.length < ts.length → Sound finish l.operand us) :
    Sound finish (.operation l) ts := by
  intro e ended
  rw [read_operation] at ended
  obtain ⟨first, firstRead, ended⟩ := exists_of_bind_eq_ok ended
  have firstShorter := length_lt_of_read firstRead
  apply yields_binaryRest (fun us bound => shorter us (by omega)) _ ended
  exact (operand first firstRead).passed .operand

theorem sound_negation {ts : List Token} (keyword : Sound finish .keyword ts)
    (shorter : ∀ us : List Token, us.length < ts.length → Sound finish .negation us) :
    Sound finish .negation ts := by
  intro e ended
  rw [read] at ended
  by_cases negated : ∃ written start rest, ts = ⟨.operator .not, written, start⟩ :: rest
  · obtain ⟨written, start, rest, rfl⟩ := negated
    rw [outcome_not] at ended
    obtain ⟨operand, operandRead, ended⟩ := exists_of_bind_eq_ok ended
    cases ended
    have operated := shorter rest (by simp) operand operandRead
    exact .node finish (.not operated.derived) (operated.laid.cons _) (operated.ends.cons _)
      rfl rfl
  · rw [outcome_affirmed fun _ _ _ same => negated ⟨_, _, _, same⟩] at ended
    exact (keyword e ended).passed .affirmed

theorem sound_keyword {ts : List Token} (signed : Sound finish .signed ts)
    (shorter : ∀ us : List Token, us.length < ts.length → Sound finish .signed us) :
    Sound finish .keyword ts := by
  intro e ended
  rw [read, outcome_keywordOperation] at ended
  obtain ⟨left, leftRead, ended⟩ := exists_of_bind_eq_ok ended
  have leftShorter := length_lt_of_outcome leftRead
  have leftYields := signed left leftRead
  unfold keywordAfter at ended
  split at ended
  · rename_i k written span rest leftSame
    split at ended
    · rename_i op relates
      obtain ⟨right, rightRead, ended⟩ := exists_of_bind_eq_ok ended
      have restShorter : rest.length < left.rest.length := by simp [leftSame]
      have rightYields := shorter rest (by omega) right rightRead
      cases ended
      rw [leftSame] at leftYields
      exact .node finish (.keyword (keywordOp?_eq_some_iff.mp relates) leftYields.derived
        rightYields.derived) (leftYields.laid.pass.append rightYields.laid)
        (leftYields.ends.trans (rightYields.ends.cons _)) rfl rfl
    · cases ended
      exact leftYields.passed .unrelated
  · cases ended
    exact leftYields.passed .unrelated

theorem sound_signed {ts : List Token} (indexed : Sound finish .indexed ts)
    (shorter : ∀ us : List Token, us.length < ts.length → Sound finish .signed us) :
    Sound finish .signed ts := by
  intro e ended
  rw [read] at ended
  by_cases hasSign : ∃ sign written start rest op,
      ts = ⟨.operator sign, written, start⟩ :: rest ∧ signOp? sign = some op
  · obtain ⟨sign, written, start, rest, op, rfl, signs⟩ := hasSign
    rw [outcome_sign signs] at ended
    obtain ⟨operand, operandRead, ended⟩ := exists_of_bind_eq_ok ended
    cases ended
    have operated := shorter rest (by simp) operand operandRead
    exact .node finish (.sign (signOp?_eq_some_iff.mp signs) operated.derived)
      (operated.laid.cons _) (operated.ends.cons _) rfl rfl
  · rw [outcome_unsigned] at ended
    · exact (indexed e ended).passed .unsigned
    · intro sign written start rest same
      apply Option.eq_none_iff_forall_ne_some.mpr
      intro op signs
      exact hasSign ⟨sign, written, start, rest, op, same, signs⟩

/-- Positions that go on from a base are yielded by all tokens from its first one. -/
theorem yields_indexedRest {us : List Token} {base : Rule} {last : Nat} {ts : List Token}
    {e : Extent Rule}
    (shorter : ∀ us : List Token, us.length < ts.length → Sound finish .assignment us)
    (baseYields : Yields .indexed us ts base last)
    (ended : outcome (indexedRest finish (here finish us) base last ts) = .ok e) :
    Yields .indexed us e.rest e.value e.last := by
  by_cases goesOn : ∃ written span rest, ts = ⟨.leftBracket, written, span⟩ :: rest
  · obtain ⟨written, span, rest, same⟩ := goesOn
    have restShorter : rest.length < ts.length := by simp [same]
    rw [same, outcome_indexedRest_bracket] at ended
    obtain ⟨position, positionRead, ended⟩ := exists_of_bind_eq_ok ended
    obtain ⟨close, closeRead, ended⟩ := exists_of_bind_eq_ok ended
    have positionShorter := length_lt_of_outcome positionRead
    have closeShorter := length_lt_of_outcome closeRead
    have placed := shorter rest restShorter position positionRead
    obtain ⟨_, _, closeSame, closeLast⟩ := eq_of_expectRightBracket closeRead
    rw [same] at baseYields
    rw [closeSame] at placed
    have ends := baseYields.ends.trans ((placed.ends.trans (.single _ _)).cons _)
    rw [← closeLast] at ends
    refine yields_indexedRest (fun us bound => shorter us (by omega)) ?_ ended
    exact .node finish (.index baseYields.derived placed.derived)
      (baseYields.laid.pass.append placed.laid.pass) ends rfl rfl
  · rw [outcome_indexedRest_end fun _ _ _ same => goesOn ⟨_, _, _, same⟩] at ended
    cases ended
    exact baseYields
termination_by ts.length
decreasing_by omega

theorem sound_indexed {ts : List Token} (primary : Sound finish .primary ts)
    (shorter : ∀ us : List Token, us.length < ts.length → Sound finish .assignment us) :
    Sound finish .indexed ts := by
  intro e ended
  rw [read, outcome_indexed] at ended
  obtain ⟨base, baseRead, ended⟩ := exists_of_bind_eq_ok ended
  have baseShorter := length_lt_of_outcome baseRead
  apply yields_indexedRest (fun us bound => shorter us (by omega)) _ ended
  exact (primary base baseRead).passed .whole

/-! ## Items, statements and primaries -/

/-- Tokens up to a rest yield items with commas between them. -/
structure YieldsItems (ts rest : List Token) (es : List Rule) (last : Nat) : Prop where
  derived : DerivesItems (lexemes ts) (lexemes rest) (trees es)
  laid : Laid ts rest es
  ends : EndsAt ts rest last

theorem yields_items {ts : List Token} {e : Extent (List Rule)}
    (sound : ∀ us : List Token, us.length ≤ ts.length → Sound finish .assignment us)
    (ended : outcome (items finish ts) = .ok e) : YieldsItems ts e.rest e.value e.last := by
  rw [outcome_items] at ended
  obtain ⟨first, firstRead, ended⟩ := exists_of_bind_eq_ok ended
  have firstShorter := length_lt_of_outcome firstRead
  have firstYields := sound ts (Nat.le_refl _) first firstRead
  unfold itemsAfter at ended
  split at ended
  · rename_i comma span rest firstSame
    obtain ⟨more, moreRead, ended⟩ := exists_of_bind_eq_ok ended
    have restShorter : rest.length < first.rest.length := by simp [firstSame]
    have moreYields := yields_items (fun us bound => sound us (by omega)) moreRead
    cases ended
    rw [firstSame] at firstYields
    exact ⟨.comma firstYields.derived moreYields.derived,
      firstYields.laid.pass.append moreYields.laid,
      firstYields.ends.trans (moreYields.ends.cons _)⟩
  · cases ended
    exact ⟨.last firstYields.derived, firstYields.laid, firstYields.ends⟩
termination_by ts.length
decreasing_by omega

/-- Tokens up to a rest yield statements.  There may be no tokens, and then the place where
the last one ends is the one before. -/
structure YieldsStatements (before : Nat) (ts rest : List Token) (es : List Rule) (last : Nat) :
    Prop where
  derived : DerivesStatements (lexemes ts) (lexemes rest) (trees es)
  laid : Laid ts rest es
  ends : EndsAt ts rest last ∨ ts = rest ∧ es = [] ∧ last = before

theorem yields_statements {enclosed : Bool} {before : Nat} {ts : List Token}
    {e : Extent (List Rule)}
    (sound : ∀ us : List Token, us.length ≤ ts.length → Sound finish .assignment us)
    (ended : outcome (statements finish enclosed before ts) = .ok e) :
    YieldsStatements before ts e.rest e.value e.last := by
  by_cases empty : ts = []
  · rw [empty, outcome_statements_nil] at ended
    cases ended
    rw [empty]
    exact ⟨.nothing, .nothing, .inr ⟨rfl, rfl, rfl⟩⟩
  obtain ⟨⟨lexeme, written, span⟩, rest, same⟩ := List.exists_cons_of_ne_nil empty
  have restShorter : rest.length < ts.length := by simp [same]
  by_cases skips : lexeme = .semicolon
  · rw [same, skips, outcome_statements_skip] at ended
    rw [same, skips]
    obtain ⟨derived, laid, ends⟩ :=
      yields_statements (fun us bound => sound us (by omega)) ended
    refine ⟨.skip derived, laid.cons _, .inl ?_⟩
    rcases ends with ends | ⟨noMore, -, last⟩
    · exact ends.cons _
    · rw [noMore, last]
      exact .single _ _
  by_cases closes : enclosed = true ∧ lexeme = .rightParen
  · obtain ⟨rfl, rfl⟩ := closes
    rw [same, outcome_statements_close] at ended
    cases ended
    rw [same]
    exact ⟨.nothing, .nothing, .inr ⟨rfl, rfl, rfl⟩⟩
  · rw [same, outcome_statements_cons before skips closes, ← same] at ended
    obtain ⟨first, firstRead, ended⟩ := exists_of_bind_eq_ok ended
    have firstShorter := length_lt_of_outcome firstRead
    have firstYields := sound _ (Nat.le_refl _) first firstRead
    unfold statementsAfter at ended
    split at ended
    · rename_i semicolon semicolonSpan following firstSame
      obtain ⟨more, moreRead, ended⟩ := exists_of_bind_eq_ok ended
      have followingShorter : following.length < first.rest.length := by simp [firstSame]
      obtain ⟨derived, laid, ends⟩ :=
        yields_statements (fun us bound => sound us (by omega)) moreRead
      cases ended
      rw [firstSame] at firstYields
      refine ⟨.next firstYields.derived derived, firstYields.laid.pass.append laid, .inl ?_⟩
      rcases ends with ends | ⟨noMore, -, last⟩
      · exact firstYields.ends.trans (ends.cons _)
      · rw [← noMore, last]
        exact firstYields.ends.trans (.single _ _)
    · cases ended
      exact ⟨.last firstYields.derived, firstYields.laid, .inl firstYields.ends⟩
termination_by ts.length
decreasing_by all_goals omega

/-- Statements as one node are laid out over their tokens. -/
theorem YieldsStatements.laid_block {before : Nat} {ts rest : List Token} {es : List Rule}
    {last : Nat} (yields : YieldsStatements before ts rest es last) (ends : EndsAt ts rest last) :
    Laid ts rest [block (here finish ts) last es] := by
  by_cases one : es.length = 1
  · obtain ⟨statement, rfl⟩ := List.length_eq_one_iff.mp one
    exact yields.laid
  have several : block (here finish ts) last es = .sequence (through (here finish ts) last) es := by
    rw [block]
    rintro statement rfl
    exact one rfl
  rw [several]
  refine .node yields.laid ?_ (ends.spanned finish)
  rw [tree_sequence]
  refine .statements yields.derived ?_
  rwa [trees, List.length_map]

/-- Reading a primary fails at a lexeme with which none begins. -/
theorem outcome_primary_error (finish : Mark) {w : Lexeme} (noLiteral : ∀ v, ¬ Literal w v)
    (noName : ∀ x, w ≠ .name x) (noParen : w ≠ .leftParen) (noBracket : w ≠ .leftBracket)
    (written : String) (span : Span) (rest : List Token) :
    ∃ f, outcome (primary finish (⟨w, written, span⟩ :: rest)) = .error f := by
  cases w with
  | int n => exact absurd (.int n) (noLiteral _)
  | float x => exact absurd (.float x) (noLiteral _)
  | text s => exact absurd (.text s) (noLiteral _)
  | name x => exact absurd rfl (noName x)
  | leftParen => exact absurd rfl noParen
  | leftBracket => exact absurd rfl noBracket
  | keyword k =>
      rw [primary]
      split
      · rename_i v literal
        cases k <;> cases literal
        · exact absurd .yes (noLiteral _)
        · exact absurd .no (noLiteral _)
        · exact absurd .null (noLiteral _)
      · split <;> exact ⟨_, rfl⟩
  | _ => exact ⟨_, by rw [primary] <;> first | rfl | simp⟩

/-- A literal or a variable has the stretch of its token. -/
theorem through_self (span : Span) : through span span.stop = span := by
  rw [through, Nat.max_self]

theorem sound_name {x written : String} {span : Span} {rest : List Token}
    (shorter : ∀ us : List Token, us.length ≤ rest.length → Sound finish .assignment us) :
    Sound finish .primary (⟨.name x, written, span⟩ :: rest) := by
  intro e ended
  rw [read] at ended
  by_cases isCall : ∃ opening start following,
      rest = ⟨.leftParen, opening, start⟩ :: following
  · obtain ⟨opening, start, following, rfl⟩ := isCall
    by_cases empty : ∃ closing stop after, following = ⟨.rightParen, closing, stop⟩ :: after
    · obtain ⟨closing, stop, after, rfl⟩ := empty
      rw [outcome_callNothing] at ended
      cases ended
      exact .node finish .callNothing (((Laid.nothing.cons _).cons _).cons _)
        (((EndsAt.single _ _).cons _).cons _) rfl rfl
    · rw [outcome_call fun _ _ _ same => empty ⟨_, _, _, same⟩] at ended
      obtain ⟨args, argsRead, ended⟩ := exists_of_bind_eq_ok ended
      obtain ⟨close, closeRead, ended⟩ := exists_of_bind_eq_ok ended
      have given := yields_items
        (fun us bound => shorter us (by simp only [List.length_cons]; omega)) argsRead
      obtain ⟨_, _, closeSame, closeLast⟩ := eq_of_expectRightParen closeRead
      cases ended
      rw [closeSame] at given
      rw [closeLast]
      refine .node finish ?_ ((given.laid.pass.cons _).cons _)
        (((given.ends.trans (.single _ _)).cons _).cons _) rfl rfl
      rw [tree_call]
      exact .call given.derived
  · rw [outcome_var fun _ _ _ same => isCall ⟨_, _, _, same⟩] at ended
    cases ended
    refine .node finish (.var ?_) (Laid.nothing.cons _) (.single _ _) rfl (through_self span).symm
    intro opens
    rcases rest with _ | ⟨⟨lexeme, opening, start⟩, following⟩
    · cases opens
    · cases opens
      exact isCall ⟨_, _, _, rfl⟩

theorem sound_parentheses {written : String} {span : Span} {rest : List Token}
    (shorter : ∀ us : List Token, us.length ≤ rest.length → Sound finish .assignment us) :
    Sound finish .primary (⟨.leftParen, written, span⟩ :: rest) := by
  intro e ended
  rw [read] at ended
  by_cases empty : ∃ closing stop after, rest = ⟨.rightParen, closing, stop⟩ :: after
  · obtain ⟨closing, stop, after, rfl⟩ := empty
    rw [primary] at ended
    cases ended
  · rw [outcome_parentheses fun _ _ _ same => empty ⟨_, _, _, same⟩] at ended
    obtain ⟨body, bodyRead, ended⟩ := exists_of_bind_eq_ok ended
    obtain ⟨close, closeRead, ended⟩ := exists_of_bind_eq_ok ended
    have stated := yields_statements shorter bodyRead
    obtain ⟨closing, stop, closeSame, closeLast⟩ := eq_of_expectRightParen closeRead
    cases ended
    rw [closeSame] at stated
    rw [closeLast]
    rcases stated.ends with ends | ⟨nothing, -⟩
    · refine ⟨?_, (stated.laid_block ends).pass.cons _, (ends.trans (.single _ _)).cons _⟩
      rw [tree_block]
      apply Derives.parentheses stated.derived
      intro same
      rcases rest with _ | ⟨⟨lexeme, opening, start⟩, following⟩
      · cases same
      · obtain ⟨rfl, -⟩ := List.cons.inj same
        exact empty ⟨_, _, _, rfl⟩
    · exact absurd ⟨closing, stop, close.rest, nothing⟩ empty

theorem sound_list {written : String} {span : Span} {rest : List Token}
    (shorter : ∀ us : List Token, us.length ≤ rest.length → Sound finish .assignment us) :
    Sound finish .primary (⟨.leftBracket, written, span⟩ :: rest) := by
  intro e ended
  rw [read] at ended
  by_cases empty : ∃ closing stop after, rest = ⟨.rightBracket, closing, stop⟩ :: after
  · obtain ⟨closing, stop, after, rfl⟩ := empty
    rw [outcome_emptyList] at ended
    cases ended
    exact .node finish .emptyList ((Laid.nothing.cons _).cons _) ((EndsAt.single _ _).cons _)
      rfl rfl
  · rw [outcome_list fun _ _ _ same => empty ⟨_, _, _, same⟩] at ended
    obtain ⟨members, membersRead, ended⟩ := exists_of_bind_eq_ok ended
    obtain ⟨close, closeRead, ended⟩ := exists_of_bind_eq_ok ended
    have given := yields_items shorter membersRead
    obtain ⟨_, _, closeSame, closeLast⟩ := eq_of_expectRightBracket closeRead
    cases ended
    rw [closeSame] at given
    rw [closeLast]
    refine .node finish ?_ (given.laid.pass.cons _) ((given.ends.trans (.single _ _)).cons _)
      rfl rfl
    rw [tree_list]
    exact .list given.derived

theorem sound_primary {ts : List Token}
    (shorter : ∀ us : List Token, us.length < ts.length → Sound finish .assignment us) :
    Sound finish .primary ts := by
  rcases ts with _ | ⟨⟨lexeme, written, span⟩, rest⟩
  · intro e ended
    rw [read, primary] at ended
    · cases ended
    all_goals simp
  have bounded : ∀ us : List Token, us.length ≤ rest.length → Sound finish .assignment us :=
    fun us bound => shorter us (by simp only [List.length_cons]; omega)
  by_cases literal : ∃ v, Literal lexeme v
  · obtain ⟨v, literal⟩ := literal
    intro e ended
    rw [read, outcome_literal literal] at ended
    cases ended
    exact .node finish (.literal literal) (Laid.nothing.cons _) (.single _ _) rfl
      (through_self span).symm
  cases lexeme with
  | name x => exact sound_name bounded
  | leftParen => exact sound_parentheses bounded
  | leftBracket => exact sound_list bounded
  | _ =>
      intro e ended
      obtain ⟨f, fails⟩ := outcome_primary_error finish
        (fun v is => literal ⟨v, is⟩) (by simp) (by simp) (by simp) written span rest
      rw [read, fails] at ended
      cases ended

/-! ## Rules -/

/-- Whatever is read as an expression of a category is yielded by its tokens. -/
theorem sound (c : Category) (ts : List Token) : Sound finish c ts := by
  induction h : ts.length using Nat.strongRecOn generalizing c ts with
  | _ n ih =>
  subst h
  have shorter (c : Category) (us : List Token) (bound : us.length < ts.length) :
      Sound finish c us := ih us.length bound c us rfl
  have primary := sound_primary (shorter .assignment)
  have indexed := sound_indexed primary (shorter .assignment)
  have signed := sound_signed indexed (shorter .signed)
  have keyword := sound_keyword signed (shorter .signed)
  have negation := sound_negation keyword (shorter .negation)
  have power := sound_operation (l := .power) negation (shorter _)
  have product := sound_operation (l := .product) power (shorter _)
  have sum := sound_operation (l := .sum) product (shorter _)
  have relation := sound_operation (l := .relation) sum (shorter _)
  have equality := sound_operation (l := .equality) relation (shorter _)
  have conjunction := sound_operation (l := .conjunction) equality (shorter _)
  have disjunction := sound_operation (l := .disjunction) conjunction (shorter _)
  have conditional := sound_conditional disjunction shorter
  have assignment := sound_assignment (shorter .assignment) conditional
  cases c with
  | operation l => cases l <;> assumption
  | _ => assumption

/-- What was read of tokens as a rule is yielded by all of them. -/
theorem yields_of_parse {ts : Tokens} {rule : Rule} (parsed : ts.parse = .ok rule) :
    ∃ es last, YieldsStatements 0 ts.tokens [] es last ∧
      rule = block (here ts.finish ts.tokens) last es := by
  obtain ⟨body, bodyRead, parsed⟩ := exists_of_bind_eq_ok parsed
  have stated := yields_statements (fun us _ => sound .assignment us)
    (congrArg outcome bodyRead)
  split at parsed
  · rename_i empty
    cases parsed
    rw [Parse.extent, List.isEmpty_iff.mp empty] at stated
    exact ⟨_, _, stated, rfl⟩
  · cases parsed

/-- The tree of a rule that has been read is derived from its lexemes. -/
theorem derivesRule_of_parse {ts : Tokens} {rule : Rule} (parsed : ts.parse = .ok rule) :
    DerivesRule (lexemes ts.tokens) (tree rule) := by
  obtain ⟨es, last, stated, rfl⟩ := yields_of_parse parsed
  exact ⟨_, stated.derived, tree_block _ _ _⟩

/-- A rule that has been read is laid out over its tokens.  If there are none, it does nothing,
and it is where the text ends. -/
theorem laid_of_parse {ts : Tokens} {rule : Rule} (parsed : ts.parse = .ok rule) :
    Laid ts.tokens [] [rule] ∨ ts.tokens = [] ∧ rule = .sequence (Span.empty ts.finish) [] := by
  obtain ⟨es, last, stated, rfl⟩ := yields_of_parse parsed
  rcases stated.ends with ends | ⟨none, rfl, rfl⟩
  · exact .inl (stated.laid_block ends)
  · refine .inr ⟨none, ?_⟩
    rw [none, block, here, through, Nat.zero_max]
    exact nofun

end Parser

end EditGuard.Rule
