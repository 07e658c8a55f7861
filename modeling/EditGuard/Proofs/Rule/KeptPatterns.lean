import EditGuard.Proofs.Pattern.Cache
import EditGuard.Proofs.Rule.Composition

/-!
# Evaluations and the patterns that were kept

An evaluation may use patterns that earlier ones have read.  How it ends, and everything
that it leaves behind but the patterns, is the same for every sound cache.  The host may
answer as it likes, also by what it was asked before.
-/

namespace EditGuard.Rule

open Variable (Host)
open Pattern.Cache (Transparent)

/-- A computation that ends in the same way, in the same state but for the patterns,
whichever sound cache it starts with.  The cache that it leaves is sound. -/
def IgnoresPatterns {α : Type} (x : Eval α) : Prop :=
  ∀ s : State, ∃ outcome, ∃ finish : State, ∀ c : Pattern.Cache, c.Sound →
    ∃ d : Pattern.Cache, d.Sound ∧
      x.run.run { s with patterns := c } = (outcome, { finish with patterns := d })

namespace IgnoresPatterns

variable {host : Host}

/-- A computation that does not look at the patterns. -/
theorem of_unused {α : Type} {x : Eval α}
    (unused : ∀ s : State, ∃ outcome, ∃ finish : State, ∀ c : Pattern.Cache,
      x.run.run { s with patterns := c } = (outcome, { finish with patterns := c })) :
    IgnoresPatterns x := by
  intro s
  obtain ⟨outcome, finish, ran⟩ := unused s
  exact ⟨outcome, finish, fun c sound => ⟨c, sound, ran c⟩⟩

theorem pure {α : Type} (a : α) : IgnoresPatterns (pure a : Eval α) :=
  of_unused fun s => ⟨.ok a, s, fun _ => rfl⟩

theorem refuse {α : Type} (span : Span) (p : Problem) :
    IgnoresPatterns (Eval.refuse span p : Eval α) :=
  of_unused fun s => ⟨.error (.finding ⟨p, span⟩), s, fun _ => rfl⟩

theorem count : IgnoresPatterns Eval.count := by
  refine of_unused fun s => ?_
  simp only [run_count]
  rcases s.budget.raise 1 with ⟨outcome, budget⟩
  cases outcome with
  | ok => exact ⟨.ok (), { s with budget }, fun _ => rfl⟩
  | error o => exact ⟨.error (.fault (.overrun o)), { s with budget }, fun _ => rfl⟩

theorem findLocal (name : String) : IgnoresPatterns (Eval.findLocal name) :=
  of_unused fun s => ⟨.ok (s.locals.find? name), s, fun _ => rfl⟩

theorem bindLocal (name : String) (v : Value) : IgnoresPatterns (Eval.bind name v) :=
  of_unused fun s => ⟨.ok (), { s with locals := s.locals.insert name v }, fun _ => rfl⟩

theorem clearLocals : IgnoresPatterns Eval.clearLocals :=
  of_unused fun s => ⟨.ok (), { s with locals := .empty }, fun _ => rfl⟩

theorem reading {α : Type} (r : Variable.Reading α) : IgnoresPatterns (Eval.reading r) := by
  refine of_unused fun s => ?_
  simp only [run_reading]
  rcases r.run.run s.memory with ⟨outcome, memory⟩
  cases outcome with
  | ok a => exact ⟨.ok a, { s with memory }, fun _ => rfl⟩
  | error f => exact ⟨.error (.fault f), { s with memory }, fun _ => rfl⟩

theorem readVariable (span : Span) (name : String) :
    IgnoresPatterns (Eval.readVariable host span name) := by
  intro s
  simp only [run_readVariable]
  cases s.locals.find? name with
  | some v => exact of_unused (fun s => ⟨.ok v, s, fun _ => rfl⟩) s
  | none =>
      by_cases withdrawn : Variable.isWithdrawn name
      · simp only [if_pos withdrawn]
        exact refuse (α := Value) span (.disabledVariable name) s
      · simp only [if_neg withdrawn]
        by_cases unknown : !Variable.isBuiltin name && !s.memory.vars.has name
        · simp only [if_pos unknown]
          exact refuse (α := Value) span (.unrecognisedVariable name) s
        · simp only [if_neg unknown]
          exact reading (Variable.read host name .current) s

/-- From a state in which a computation uses the patterns once and transparently, it ends in
the same way for every sound cache. -/
theorem of_transparent {ε α β : Type} {x : Eval β} {s : State}
    {use : Pattern.Cache → Except ε (α × Pattern.Cache)} (transparent : Transparent use)
    (value : α → β) (failure : ε → Failure)
    (ran : ∀ c, x.run.run { s with patterns := c } =
      match use c with
      | .ok (a, d) => (.ok (value a), { s with patterns := d })
      | .error e => (.error (failure e), { s with patterns := c })) :
    ∃ outcome, ∃ finish : State, ∀ c : Pattern.Cache, c.Sound →
      ∃ d : Pattern.Cache, d.Sound ∧
        x.run.run { s with patterns := c } = (outcome, { finish with patterns := d }) := by
  obtain ⟨outcome, used⟩ := transparent
  cases outcome with
  | ok a =>
      refine ⟨.ok (value a), s, fun c sound => ?_⟩
      obtain ⟨d, same, soundAfter⟩ := used c sound
      exact ⟨d, soundAfter, by rw [ran, same]⟩
  | error e =>
      refine ⟨.error (failure e), s, fun c sound => ⟨c, sound, ?_⟩⟩
      have same : use c = .error e := used c sound
      rw [ran, same]

theorem apply (span : Span) (args : List Rule) (body : Function.Body) (values : List Value) :
    IgnoresPatterns (Eval.apply span args body values) := by
  intro s
  by_cases undefined : values.any Value.isUndefined
  · simp only [run_apply, if_pos undefined]
    exact pure Value.undefined s
  · let failure (refusal : Function.Refusal) : Failure :=
      .finding ⟨refusal.problem, Eval.argumentSpan args span refusal.argument⟩
    refine of_transparent (body.transparent_apply values) id failure fun c => ?_
    rw [run_apply, if_neg undefined]
    dsimp only
    rcases body.apply values c with refusal | ⟨v, d⟩ <;> rfl

theorem applyKeyword (span : Span) (op : KeywordOp) (left right : Value) :
    IgnoresPatterns (Eval.applyKeyword span op left right) := by
  intro s
  by_cases undefined : left.isUndefined || right.isUndefined
  · simp only [run_applyKeyword, if_pos undefined]
    exact pure Value.undefined s
  · refine of_transparent (Function.transparent_applyKeyword op left right) Value.bool
      (fun p => .finding ⟨p, span⟩) fun c => ?_
    rw [run_applyKeyword, if_neg undefined]
    dsimp only
    rcases Function.applyKeyword op left right c with p | ⟨b, d⟩ <;> rfl

theorem sequence {α β : Type} {x : Eval α} {f : α → Eval β} (first : IgnoresPatterns x)
    (rest : ∀ a, IgnoresPatterns (f a)) : IgnoresPatterns (x >>= f) := by
  intro s
  obtain ⟨outcome, between, ran⟩ := first s
  cases outcome with
  | ok a =>
      obtain ⟨outcome, finish, ranOn⟩ := rest a between
      refine ⟨outcome, finish, fun c sound => ?_⟩
      obtain ⟨d, soundBetween, first⟩ := ran c sound
      rw [run_bind_of_ok first]
      exact ranOn d soundBetween
  | error e =>
      refine ⟨.error e, between, fun c sound => ?_⟩
      obtain ⟨d, soundAfter, first⟩ := ran c sound
      exact ⟨d, soundAfter, run_bind_of_error first⟩

end IgnoresPatterns

/-- No computation that is put together from the steps of evaluations can tell which
patterns were kept. -/
theorem Composed.ignoresPatterns {host : Host} {α : Type} {x : Eval α}
    (composed : Composed host x) : IgnoresPatterns x := by
  induction composed with
  | pure a => exact .pure a
  | refuse span p => exact .refuse span p
  | count => exact .count
  | readVariable span name => exact .readVariable span name
  | findLocal name => exact .findLocal name
  | bindLocal name v => exact .bindLocal name v
  | clearLocals => exact .clearLocals
  | apply span args body values => exact .apply span args body values
  | applyKeyword span op left right => exact .applyKeyword span op left right
  | sequence _ _ first rest => exact .sequence first rest

end EditGuard.Rule
