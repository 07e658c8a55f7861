import Mathlib.Algebra.Ring.Nat
import EditGuard.Proofs.Batch.Evaluation

/-!
# The accounts of a batch

The filters of a batch are evaluated one after the other until one of them uses up the
conditions.  What the result says about them adds up: each condition is charged to one
filter, and a filter is said to match if and only if its evaluation says so.
-/

namespace EditGuard.Batch

open Variable (Host)

/-! ## The evaluations of a batch -/

/-- The evaluation of a filter, with what was shared before and after it. -/
structure Evaluation where
  id : FilterId
  filter : Filter
  before : Shared
  outcome : Outcome
  after : Shared

namespace Evaluation

/-- The rule that is evaluated. -/
def source (e : Evaluation) : Rule.Source :=
  sourceOf e.id e.filter

def profile (settings : Settings) (e : Evaluation) : Profile :=
  profileOf settings e.source e.before (e.outcome, e.after)

end Evaluation

/-- Evaluations that follow each other: the first one starts from `s`, and each other
one from what the one before it has left. -/
def Linked (host : Host) : Shared → List Evaluation → Prop
  | _, [] => True
  | s, e :: rest =>
      e.before = s ∧ evaluate host e.source s = (e.outcome, e.after) ∧ Linked host e.after rest

theorem Linked.evaluated {host : Host} {s : Shared} {trace : List Evaluation}
    (linked : Linked host s trace) :
    ∀ e ∈ trace, evaluate host e.source e.before = (e.outcome, e.after) := by
  induction trace generalizing s with
  | nil =>
      intro e mem
      cases mem
  | cons first rest ih =>
      obtain ⟨before, ran, later⟩ := linked
      intro e mem
      rcases List.mem_cons.mp mem with rfl | mem
      · rw [before, ran]
      · exact ih later e mem

/-- The result that a batch makes of its progress. -/
def Progress.result (p : Progress) : BatchResult :=
  { matched := (p.profiles.filter fun entry => entry.2.matched).map Prod.fst
    conditions := p.shared.budget.consumed
    profiles := .ofList p.profiles
    exhausted := p.exhausted
    timedOut := p.timedOut
    cached := false }

end EditGuard.Batch
