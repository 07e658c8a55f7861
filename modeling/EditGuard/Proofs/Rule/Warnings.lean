import EditGuard.Proofs.Rule.Nesting
import EditGuard.Proofs.Rule.Visiting
import Mathlib.Data.List.Dedup
import Mathlib.Data.List.Perm.Basic

/-!
# What a check warns of

The doubts about an accepted rule are told by its tree: one for each local variable that is
assigned and never read, one for each renamed variable that is read, and one for each literal
pattern that matches the empty text.
-/

namespace EditGuard.Rule

/-! ## The doubts of a tree -/

/-- The assignments to local variables in the order in which they are visited, each with the
position of the name. -/
def assignments (rule : Rule) : List (String × Nat) :=
  (visited rule).filterMap Expr.assigned?

/-- The variables that are read somewhere. -/
def reads (rule : Rule) : List String :=
  (visited rule).filterMap Expr.read?

/-- A doubt for each local variable that is assigned somewhere and read nowhere, where it is
first assigned. -/
def unusedVariables (rule : Rule) : List Warning :=
  (((assignments rule).map Prod.fst).dedup.filter fun x => !(reads rule).contains x).filterMap
    fun x => ((assignments rule).lookup x).map fun position => ⟨.unusedVariable x, position⟩

/-- All doubts about a rule. -/
def doubts (rule : Rule) : List Warning :=
  unusedVariables rule ++ (visited rule).flatMap Expr.deprecations ++
    (visited rule).flatMap Expr.emptyMatches

/-! ## What is found out step by step -/

namespace Check

variable {es : List Rule} {c d : CheckState} {x : String}

theorem Steps.warnings (steps : Steps es c d) :
    d.warnings = c.warnings ++ es.flatMap fun e => e.deprecations ++ e.emptyMatches := by
  induction steps with
  | nil => rw [List.flatMap_nil, List.append_nil]
  | cons step _ ih => rw [ih, step.warnings, List.flatMap_cons, List.append_assoc]

theorem Steps.own (steps : Steps es c d) :
    ∀ a ∈ es.filterMap Expr.assigned?, Variable.isBuiltin a.1 = false := by
  induction steps with
  | nil => exact List.forall_mem_nil _
  | @cons e es b c d step _ ih =>
      intro a mem
      rw [List.mem_filterMap] at mem
      obtain ⟨node, mem, assigned⟩ := mem
      rcases List.mem_cons.mp mem with rfl | mem
      · exact step.own a assigned
      · exact ih a (List.mem_filterMap.mpr ⟨node, mem, assigned⟩)

theorem noted_some (l : Local) (e : Rule) :
    noted x (some l) e = some ⟨l.position, l.used || e.read? == some x⟩ := by
  rw [noted]
  split
  · next read => simp [read]
  · next other =>
      rw [beq_eq_false_iff_ne.mpr other, Bool.or_false]
      split
      · rfl
      · rfl

/-- A variable that was assigned before keeps its position, and is used if it is read. -/
theorem Steps.find?_of_some (steps : Steps es c d) {l : Local}
    (found : c.locals.find? x = some l) :
    d.locals.find? x = some ⟨l.position, l.used || (es.filterMap Expr.read?).contains x⟩ := by
  induction steps generalizing l with
  | nil => simp [found]
  | @cons e es b c d step _ ih =>
      have next := step.locals x
      rw [found, noted_some] at next
      rw [ih next, Bool.or_assoc]
      cases read : e.read? with
      | none => rw [List.filterMap_cons_none read, Option.none_beq_some, Bool.false_or]
      | some y =>
          rw [List.filterMap_cons_some read, List.contains_cons, Option.some_beq_some, BEq.comm]

/-- A local variable that was not assigned before is known from its first assignment on. -/
theorem Steps.find?_of_none (steps : Steps es c d) (isLocal : Variable.isBuiltin x = false)
    (unknown : c.locals.find? x = none) :
    d.locals.find? x = ((es.filterMap Expr.assigned?).lookup x).map fun position =>
      ⟨position, (es.filterMap Expr.read?).contains x⟩ := by
  induction steps with
  | nil => simp [unknown]
  | @cons e es b c d step more ih =>
      have notRead : e.read? ≠ some x := by
        intro read
        have known := step.known x read isLocal
        rw [unknown] at known
        cases known
      have later : ((e :: es).filterMap Expr.read?).contains x =
          (es.filterMap Expr.read?).contains x := by
        cases read : e.read? with
        | none => rw [List.filterMap_cons_none read]
        | some y =>
            have other : x ≠ y := by
              rintro rfl
              exact notRead read
            simp [read, other]
      have next := step.locals x
      rw [unknown, noted, if_neg notRead] at next
      rw [later]
      cases assigned : e.assigned? with
      | none =>
          rw [assigned] at next
          rw [List.filterMap_cons_none assigned]
          exact ih next
      | some a =>
          obtain ⟨y, position⟩ := a
          rw [assigned] at next
          simp only [Option.none_or] at next
          rw [List.filterMap_cons_some assigned, List.lookup_cons]
          by_cases same : x = y
          · rw [if_pos same] at next
            rw [more.find?_of_some next, Bool.false_or, beq_iff_eq.mpr same]
            rfl
          · rw [if_neg same] at next
            rw [ih next, beq_eq_false_iff_ne.mpr same]

theorem proper_start : Proper start where
  patterns := Pattern.Cache.sound_empty _
  locals _ _ := rfl

end Check

/-! ## All doubts -/

open Check

/-- The check ends with what the tree says about each variable. -/
theorem find?_of_visit {rule : Rule} {d : CheckState} (ran : Succeeds (visit rule) start () d)
    (x : String) :
    d.locals.find? x = ((assignments rule).lookup x).map fun position =>
      ⟨position, (reads rule).contains x⟩ := by
  obtain ⟨steps, proper⟩ := takes_visit rule start d ran proper_start
  cases builtin : Variable.isBuiltin x with
  | false => exact steps.find?_of_none builtin rfl
  | true =>
      have unassigned : (assignments rule).lookup x = none := by
        rw [List.lookup_eq_none_iff]
        intro a mem
        rw [bne_iff_ne]
        rintro rfl
        rw [steps.own a mem] at builtin
        cases builtin
      rw [proper.locals x builtin, unassigned, Option.map_none]

theorem mem_unusedVariables_iff {rule : Rule} {w : Warning} :
    w ∈ unusedVariables rule ↔ ∃ x position, (assignments rule).lookup x = some position ∧
      x ∉ reads rule ∧ w = ⟨.unusedVariable x, position⟩ := by
  simp only [unusedVariables, List.mem_filterMap, List.mem_filter, List.mem_dedup]
  constructor
  · rintro ⟨x, ⟨-, unread⟩, made⟩
    obtain ⟨position, first, rfl⟩ := Option.map_eq_some_iff.mp made
    exact ⟨x, position, first, by simpa using unread, rfl⟩
  · rintro ⟨x, position, first, unread, rfl⟩
    obtain ⟨before, after, split, -⟩ := List.lookup_eq_some_iff.mp first
    have assigned : x ∈ (assignments rule).map Prod.fst := by simp [split]
    exact ⟨x, ⟨assigned, by simpa using unread⟩, by rw [first, Option.map_some]⟩

theorem mem_unusedWarnings_iff {locals : Dictionary String Local} {w : Warning} :
    w ∈ unusedWarnings locals ↔ ∃ x position, locals.find? x = some ⟨position, false⟩ ∧
      w = ⟨.unusedVariable x, position⟩ := by
  simp only [unusedWarnings, List.mem_filterMap]
  constructor
  · rintro ⟨⟨x, position, used⟩, mem, made⟩
    cases used with
    | true => cases made
    | false =>
        cases made
        exact ⟨x, position, Dictionary.mem_entries_iff.mp mem, rfl⟩
  · rintro ⟨x, position, found, rfl⟩
    exact ⟨(x, ⟨position, false⟩), Dictionary.mem_entries_iff.mpr found, rfl⟩

/-- There is one doubt for each local variable that is not used. -/
theorem unusedWarnings_perm {rule : Rule} {d : CheckState}
    (ran : Succeeds (visit rule) start () d) :
    (unusedWarnings d.locals).Perm (unusedVariables rule) := by
  rw [List.perm_ext_iff_of_nodup]
  · intro w
    rw [mem_unusedWarnings_iff, mem_unusedVariables_iff]
    simp only [find?_of_visit ran, Option.map_eq_some_iff, Local.mk.injEq]
    constructor
    · rintro ⟨x, _, ⟨position, first, rfl, unread⟩, rfl⟩
      exact ⟨x, position, first, by simpa using unread, rfl⟩
    · rintro ⟨x, position, first, unread, rfl⟩
      exact ⟨x, position, ⟨position, first, rfl, by simpa using unread⟩, rfl⟩
  · apply (List.Nodup.of_map Prod.fst d.locals.nodup_keys).filterMap
    rintro ⟨x, position, used⟩ ⟨y, other, usedToo⟩ w made madeToo
    cases used with
    | true => cases made
    | false =>
        cases usedToo with
        | true => cases madeToo
        | false =>
            cases made
            cases madeToo
            rfl
  · apply ((List.nodup_dedup _).filter _).filterMap
    intro x y w made madeToo
    obtain ⟨position, -, rfl⟩ := Option.map_eq_some_iff.mp made
    obtain ⟨other, -, same⟩ := Option.map_eq_some_iff.mp madeToo
    cases same
    rfl

/-- The warnings of a tree: its doubts of all kinds, in the order of their positions. -/
structure WarnsOf (rule : Rule) (warnings : List Warning) : Prop where
  sorted : warnings.Pairwise fun v w => v.position ≤ w.position
  exact : warnings.Perm (doubts rule)

theorem warnsOf_of_check {rule : Rule} {warnings : List Warning}
    (accepted : check rule = .ok warnings) : WarnsOf rule warnings := by
  obtain ⟨⟨⟨⟩, d⟩, ran, ended⟩ := exists_of_bind_eq_ok accepted
  cases ended
  obtain ⟨steps, -⟩ := takes_visit rule start d ran proper_start
  constructor
  · have trans (u v w : Warning) (first : decide (u.position ≤ v.position) = true)
        (second : decide (v.position ≤ w.position) = true) :
        decide (u.position ≤ w.position) = true :=
      decide_eq_true (Nat.le_trans (of_decide_eq_true first) (of_decide_eq_true second))
    have total (v w : Warning) :
        (decide (v.position ≤ w.position) || decide (w.position ≤ v.position)) = true := by
      simpa using Nat.le_total v.position w.position
    exact (List.pairwise_mergeSort trans total _).imp of_decide_eq_true
  · have found : d.warnings.Perm
        ((visited rule).flatMap Expr.deprecations ++ (visited rule).flatMap Expr.emptyMatches) := by
      rw [steps.warnings]
      exact (List.flatMap_append_perm (visited rule) Expr.deprecations Expr.emptyMatches).symm
    rw [doubts, List.append_assoc]
    refine (List.mergeSort_perm _ _).trans (List.perm_append_comm.trans ?_)
    exact (unusedWarnings_perm ran).append found

/-! ## Places of names -/

/-- A token at a position is the name of a local variable in front of the sign of an
assignment, or a literal text that names it. -/
def NamedAt (ts : List Token) (x : String) (position : Nat) : Prop :=
  ∃ t rest, t :: rest <:+ ts ∧ t.span.start.index = position ∧
    (t.lexeme = .name x ∧ (lexemes rest).head? = some (.operator .assign) ∨
      ∃ text, t.lexeme = .text text ∧ Variable.fold text = x)

/-- Assignments are where their tokens name the local variable. -/
theorem namedAt_of_assigned {ts : Tokens} {rule e : Rule} {x : String} {position : Nat}
    (parsed : ts.parse = .ok rule) (inside : Within rule e)
    (assigned : e.assigned? = some (x, position)) : NamedAt ts.tokens x position := by
  unfold Expr.assigned? at assigned
  split at assigned
  · next span x value =>
      cases assigned
      obtain ⟨_, place, sign, signPlace, rest, suffix, same⟩ := Parser.stands_of_parse parsed inside
      exact ⟨_, _, suffix, congrArg Mark.index same.symm, .inl ⟨rfl, rfl⟩⟩
  · next span f target value =>
      split at assigned
      · next found =>
          obtain ⟨text, literal, same⟩ := Option.map_eq_some_iff.mp assigned
          cases same
          obtain ⟨place, rfl⟩ := Check.eq_literal_of_literalText? literal
          have argument : Within rule (.literal place (.text text)) :=
            inside.trans (.part List.mem_cons_self .root)
          obtain ⟨_, _, _, isText, suffix⟩ := Parser.stands_of_parse parsed argument
          cases isText
          exact ⟨_, _, suffix, rfl, .inr ⟨text, rfl, rfl⟩⟩
      · cases assigned
  · cases assigned

/-- The warnings about an accepted rule text are those of its tree, and the first assignments
that they are about are where the text names the variables. -/
theorem Source.warnings_exact {s : Source} {warnings : List Warning}
    (accepted : s.check = .ok warnings) :
    ∃ ts rule, s.tokens = .ok ts ∧ ts.parse = .ok rule ∧ WarnsOf rule warnings ∧
      ∀ a ∈ assignments rule, NamedAt ts.tokens a.1 a.2 := by
  obtain ⟨rule, parsed, accepted⟩ := exists_of_bind_eq_ok accepted
  obtain ⟨ts, cut, parsed⟩ := exists_of_bind_eq_ok parsed
  refine ⟨ts, rule, cut, parsed, warnsOf_of_check accepted, fun a mem => ?_⟩
  obtain ⟨e, visited, assigned⟩ := List.mem_filterMap.mp mem
  exact namedAt_of_assigned parsed (mem_visited_iff.mp visited) assigned

/-- A rule with doubts of all kinds, in a condition, in a branch and in arguments.  The first
assignment to `x` comes after the one to `y` in its value, and giving an item to `z` does not
read it. -/
def doubtful : Source :=
  ⟨"doubtful", "x := (y := 1) + 1; x := y; set('Z', []); " ++
    "z[] := if article_text rlike 'a*' then rcount('', 'b') end"⟩

theorem Source.warnings_exact_doubtful :
    ∃ warnings ts rule, doubtful.check = .ok warnings ∧ doubtful.tokens = .ok ts ∧
      ts.parse = .ok rule ∧ WarnsOf rule warnings ∧
      doubts rule = [⟨.unusedVariable "x", 0⟩, ⟨.unusedVariable "z", 31⟩,
        ⟨.deprecatedVariable "article_text" "page_title", 51⟩, ⟨.matchesEmpty "a*", 70⟩,
        ⟨.matchesEmpty "", 87⟩] ∧
      ∀ a ∈ assignments rule, NamedAt ts.tokens a.1 a.2 := by
  have accepted : doubtful.check.toOption.isSome := by decide +kernel
  have all : doubtful.parse.toOption.map doubts = some [⟨.unusedVariable "x", 0⟩,
      ⟨.unusedVariable "z", 31⟩, ⟨.deprecatedVariable "article_text" "page_title", 51⟩,
      ⟨.matchesEmpty "a*", 70⟩, ⟨.matchesEmpty "", 87⟩] := by decide +kernel
  obtain ⟨warnings, checked⟩ := exists_ok_of_isSome accepted
  obtain ⟨ts, rule, cut, parsed, warns, places⟩ := warnings_exact checked
  have read : doubtful.parse = .ok rule := by
    rw [parse, cut]
    exact parsed
  rw [read] at all
  exact ⟨warnings, ts, rule, checked, cut, parsed, warns, Option.some.inj all, places⟩

end EditGuard.Rule
