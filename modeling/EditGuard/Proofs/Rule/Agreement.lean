import EditGuard.Proofs.Pattern.Cache
import EditGuard.Proofs.Rule.Budget
import EditGuard.Proofs.Variable.Memoization

/-!
# Evaluations that agree

An evaluation ends in the same way from states that differ only in what was kept of
earlier ones: the values of pending variables and the patterns that were read.
-/

namespace EditGuard.Rule

open Variable (Host Memory Request Learns)
open Pattern.Cache (Transparent)

/-- What was kept is right: the memory has values of pending variables of `vs`, and the
cache has patterns as they are read. -/
structure Faithful (answer : Request → Except Fault Value) (vs : Variables) (memory : Memory)
    (patterns : Pattern.Cache) : Prop where
  learnt : Learns answer vs vs memory.vars
  sound : patterns.Sound

/-- Two states that differ only in what was kept, and rightly. -/
structure Alike (answer : Request → Except Fault Value) (vs : Variables) (s t : State) :
    Prop where
  left : Faithful answer vs s.memory s.patterns
  right : Faithful answer vs t.memory t.patterns
  budget : s.budget = t.budget
  locals : s.locals = t.locals

/-- A transparent use of the caches has the same outcome, and they stay right. -/
theorem Alike.use_patterns {answer : Request → Except Fault Value} {vs : Variables} {s t : State}
    (alike : Alike answer vs s t) {ε α : Type}
    {use : Pattern.Cache → Except ε (α × Pattern.Cache)} (transparent : Transparent use) :
    (∃ a c d, use s.patterns = .ok (a, c) ∧ use t.patterns = .ok (a, d) ∧ c.Sound ∧ d.Sound) ∨
      ∃ e, use s.patterns = .error e ∧ use t.patterns = .error e := by
  obtain ⟨outcome, used⟩ := transparent
  have left := used s.patterns alike.left.sound
  have right := used t.patterns alike.right.sound
  cases outcome with
  | ok a =>
      obtain ⟨c, left, soundLeft⟩ := left
      obtain ⟨d, right, soundRight⟩ := right
      exact .inl ⟨a, c, d, left, right, soundLeft, soundRight⟩
  | error e => exact .inr ⟨e, left, right⟩

/-- A computation that ends in the same way from states that are alike. -/
def Agrees (answer : Request → Except Fault Value) (vs : Variables) {α : Type} (x : Eval α) :
    Prop :=
  ∀ s t, Alike answer vs s t →
    (x.run.run s).1 = (x.run.run t).1 ∧ Alike answer vs (x.run.run s).2 (x.run.run t).2

namespace Agrees

variable {host : Host} {answer : Request → Except Fault Value} {vs : Variables}

theorem count : Agrees answer vs Eval.count := by
  intro s t alike
  rw [run_count, run_count, alike.budget]
  rcases t.budget.raise 1 with ⟨outcome, charged⟩
  cases outcome with
  | ok => exact ⟨rfl, alike.left, alike.right, rfl, alike.locals⟩
  | error o => exact ⟨rfl, alike.left, alike.right, rfl, alike.locals⟩

theorem findLocal (name : String) : Agrees answer vs (Eval.findLocal name) := by
  intro s t alike
  rw [run_findLocal, run_findLocal, alike.locals]
  exact ⟨rfl, alike⟩

theorem bindLocal (name : String) (v : Value) : Agrees answer vs (Eval.bind name v) := by
  intro s t alike
  rw [run_bindLocal, run_bindLocal, alike.locals]
  exact ⟨rfl, alike.left, alike.right, alike.budget, rfl⟩

theorem clearLocals : Agrees answer vs Eval.clearLocals := by
  intro s t alike
  exact ⟨rfl, alike.left, alike.right, alike.budget, rfl⟩

/-- Reads give the values of variables, whatever was kept. -/
theorem reading (answers : host.Answers answer) (name : String) (mode : Variable.ReadMode) :
    Agrees answer vs (Eval.reading (Variable.read host name mode)) := by
  intro s t alike
  have same := (Variable.read_eq_valueOf answers name mode alike.left.learnt).trans
    (Variable.read_eq_valueOf answers name mode alike.right.learnt).symm
  have left := Variable.read_learns answers name mode alike.left.learnt
  have right := Variable.read_learns answers name mode alike.right.learnt
  rw [run_reading, run_reading]
  generalize (Variable.read host name mode).run.run s.memory = first at same left ⊢
  generalize (Variable.read host name mode).run.run t.memory = second at same right ⊢
  rcases first with ⟨first, memory⟩
  rcases second with ⟨second, memory'⟩
  cases same
  cases first with
  | ok v =>
      exact ⟨rfl, ⟨left, alike.left.sound⟩, ⟨right, alike.right.sound⟩, alike.budget, alike.locals⟩
  | error f =>
      exact ⟨rfl, ⟨left, alike.left.sound⟩, ⟨right, alike.right.sound⟩, alike.budget, alike.locals⟩

theorem readVariable (answers : host.Answers answer) (span : Span) (name : String) :
    Agrees answer vs (Eval.readVariable host span name) := by
  intro s t alike
  rw [run_readVariable, run_readVariable, alike.locals, alike.left.learnt.has name,
    alike.right.learnt.has name]
  cases t.locals.find? name with
  | some v => exact ⟨rfl, alike⟩
  | none =>
      by_cases withdrawn : Variable.isWithdrawn name
      · simp only [if_pos withdrawn]
        exact ⟨trivial, alike⟩
      · simp only [if_neg withdrawn]
        by_cases unknown : !Variable.isBuiltin name && !vs.has name
        · simp only [if_pos unknown]
          exact ⟨trivial, alike⟩
        · simp only [if_neg unknown]
          exact reading answers name .current s t alike

theorem apply (span : Span) (args : List Rule) (body : Function.Body) (values : List Value) :
    Agrees answer vs (Eval.apply span args body values) := by
  intro s t alike
  rw [run_apply, run_apply]
  by_cases undefined : values.any Value.isUndefined
  · simp only [if_pos undefined]
    exact ⟨trivial, alike⟩
  · simp only [if_neg undefined]
    rcases alike.use_patterns (body.transparent_apply values) with
      ⟨v, c, d, left, right, soundLeft, soundRight⟩ | ⟨refusal, left, right⟩
    · rw [left, right]
      exact ⟨rfl, ⟨alike.left.learnt, soundLeft⟩, ⟨alike.right.learnt, soundRight⟩,
        alike.budget, alike.locals⟩
    · rw [left, right]
      exact ⟨rfl, alike⟩

theorem applyKeyword (span : Span) (op : KeywordOp) (left right : Value) :
    Agrees answer vs (Eval.applyKeyword span op left right) := by
  intro s t alike
  rw [run_applyKeyword, run_applyKeyword]
  by_cases undefined : left.isUndefined || right.isUndefined
  · simp only [if_pos undefined]
    exact ⟨trivial, alike⟩
  · simp only [if_neg undefined]
    rcases alike.use_patterns (Function.transparent_applyKeyword op left right) with
      ⟨v, c, d, left, right, soundLeft, soundRight⟩ | ⟨problem, left, right⟩
    · rw [left, right]
      exact ⟨rfl, ⟨alike.left.learnt, soundLeft⟩, ⟨alike.right.learnt, soundRight⟩,
        alike.budget, alike.locals⟩
    · rw [left, right]
      exact ⟨rfl, alike⟩

theorem sequence {α β : Type} {x : Eval α} {f : α → Eval β} (first : Agrees answer vs x)
    (rest : ∀ a, Agrees answer vs (f a)) : Agrees answer vs (x >>= f) := by
  intro s t alike
  obtain ⟨same, finish⟩ := first s t alike
  rw [run_bind, run_bind]
  generalize x.run.run s = left at same finish ⊢
  generalize x.run.run t = right at same finish ⊢
  rcases left with ⟨outcome, s'⟩
  rcases right with ⟨other, t'⟩
  cases same
  cases outcome with
  | ok a => exact rest a s' t' finish
  | error e => exact ⟨rfl, finish⟩

end Agrees

/-- No computation that is put together from the steps of evaluations can tell what was
kept. -/
theorem Composed.agrees {host : Host} {answer : Request → Except Fault Value} {vs : Variables}
    (answers : host.Answers answer) {α : Type} {x : Eval α} (composed : Composed host x) :
    Agrees answer vs x := by
  induction composed with
  | pure a => exact fun _ _ alike => ⟨rfl, alike⟩
  | refuse span p => exact fun _ _ alike => ⟨rfl, alike⟩
  | count => exact .count
  | readVariable span name => exact .readVariable answers span name
  | findLocal name => exact .findLocal name
  | bindLocal name v => exact .bindLocal name v
  | clearLocals => exact .clearLocals
  | apply span args body values => exact .apply span args body values
  | applyKeyword span op left right => exact .applyKeyword span op left right
  | sequence _ _ first rest => exact .sequence first rest

end EditGuard.Rule
