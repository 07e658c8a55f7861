import EditGuard.Digest
import EditGuard.Filter
import EditGuard.Rule.Evaluation
import EditGuard.Settings
import EditGuard.Tags

/-!
# Batches of filters

The filters of a batch are evaluated in the order of their identities and share
one budget of conditions.  When the budget is used up the batch ends and the
action is tagged; any other failure concerns one filter only.  Verdicts can be
kept and used again for the same variables and rules.
-/

namespace EditGuard

open Variable (Memory Host)

/-- What became of one filter. -/
structure Profile where
  conditions : Nat
  matched : Bool
  error : Option String
deriving Repr, DecidableEq, Inhabited

/-- What a batch has found out, as it is kept. -/
structure Verdict where
  matched : List FilterId
  conditions : Nat
  exhausted : Bool
deriving Repr, DecidableEq, Inhabited

/-- Verdicts by their keys. -/
abbrev VerdictCache := Dictionary String Verdict

/-- The result of a batch. -/
structure BatchResult where
  /-- The filters that matched, in the order of evaluation. -/
  matched : List FilterId
  conditions : Nat
  profiles : Dictionary FilterId Profile
  /-- The budget of conditions was used up. -/
  exhausted : Bool
  timedOut : Bool
  /-- The verdict had been kept. -/
  cached : Bool
deriving Inhabited

/-- Milliseconds since the start of a batch, before each of its filters. -/
abbrev Clock := Nat → Nat

namespace Batch

/-! ## One filter -/

/-- How the evaluation of a filter ends. -/
inductive Outcome where
  | verdict (matched : Bool)
  /-- The rule is malformed. -/
  | malformed (f : Rule.Finding)
  | failed (f : Rule.Failure)
deriving Repr, DecidableEq, Inhabited

/-- What the filters of a batch share. -/
structure Shared where
  memory : Memory
  budget : Budget
  patterns : Pattern.Cache
deriving Inhabited

/-- The rule of a filter under the name by which messages quote it. -/
def sourceOf (id : FilterId) (f : Filter) : Rule.Source :=
  ⟨s!"filter {id.text}", f.rules⟩

/-- Evaluate a filter.  Nothing is shared with a malformed one. -/
def evaluate (host : Host) (source : Rule.Source) (s : Shared) : Outcome × Shared :=
  match source.parse with
  | .error f => (.malformed f, s)
  | .ok rule =>
      let start : Rule.State := ⟨s.memory, s.budget, s.patterns, .empty⟩
      let (outcome, finish) := (Rule.matchesAction host rule).run.run start
      let shared : Shared := ⟨finish.memory, finish.budget, finish.patterns⟩
      match outcome with
      | .ok matched => (.verdict matched, shared)
      | .error f => (.failed f, shared)

/-- Whether an outcome counts as a match. -/
def isMatch (policy : FailurePolicy) : Outcome → Bool
  | .verdict matched => matched
  | .malformed _ => false
  | .failed f => f.isVisible && policy == .asMatch

/-- The wording of what went wrong. -/
def errorText (source : Rule.Source) : Outcome → Option String
  | .verdict _ => none
  | .malformed f => some (f.report source)
  | .failed f => some (f.report source)

/-- Whether an outcome ends the batch. -/
def endsBatch : Outcome → Bool
  | .failed f => f.isExhaustion
  | _ => false

/-! ## All filters -/

/-- The filters that are evaluated, in order. -/
def candidates (filters : List Filter) : List (FilterId × Filter) :=
  let runnable := filters.filterMap fun f =>
    if f.isRunnable then f.id.map fun id => (id, f) else none
  runnable.mergeSort fun a b => (compare a.1 b.1).isLE

/-- The profiles of the filters that were evaluated, in order, and why the batch
ended. -/
structure Progress where
  profiles : List (FilterId × Profile)
  exhausted : Bool
  timedOut : Bool
  shared : Shared
deriving Inhabited

/-- Evaluate filters one after the other, of which the first has a number. -/
def evaluateAll (settings : Settings) (host : Host) (clock : Clock) (i : Nat) (s : Shared) :
    List (FilterId × Filter) → Progress
  | [] => ⟨[], false, false, s⟩
  | (id, f) :: rest =>
      if (settings.runtimeLimitMs.map fun limit => decide (limit < clock i)).getD false then
        ⟨[], false, true, s⟩
      else
        let source := sourceOf id f
        let (outcome, next) := evaluate host source s
        let profile : Profile :=
          { conditions := next.budget.consumed - s.budget.consumed
            matched := isMatch settings.failurePolicy outcome
            error := errorText source outcome }
        if endsBatch outcome then ⟨[(id, profile)], true, false, next⟩
        else
          let later := evaluateAll settings host clock (i + 1) next rest
          { later with profiles := (id, profile) :: later.profiles }

/-- The key of a verdict: a digest of the variables that have values and of the
filters with their rules. -/
def keyOf (vs : Variables) (filters : List Filter) : String :=
  let values : Json := .object (vs.values.map fun e => (e.1, e.2.toJson))
  let parts := filters.flatMap fun f =>
    match f.id with
    | some id => [id.text, f.rules]
    | none => []
  Digest.ofParts (values.compact :: parts)

/-- What a batch may change: the variables, the tags of the action, and the
verdicts that are kept, if any are. -/
structure Situation where
  memory : Memory
  tags : Tags
  cache : Option VerdictCache
deriving Inhabited

/-- The result that a kept verdict stands for. -/
def resultOf (v : Verdict) : BatchResult :=
  { matched := v.matched
    conditions := v.conditions
    profiles := .empty
    exhausted := v.exhausted
    timedOut := false
    cached := true }

/-- Tag an action whose batch used up its conditions. -/
def tagIf (exhausted : Bool) (settings : Settings) (tags : Tags) : Tags :=
  if exhausted then tags.add settings.exhaustionTag else tags

/-- Evaluate a batch without regard to kept verdicts. -/
def evaluateBatch (settings : Settings) (host : Host) (clock : Clock)
    (filters : List (FilterId × Filter)) (memory : Memory) : BatchResult × Memory :=
  let start : Shared :=
    ⟨memory, .limited settings.conditionLimit, .empty settings.patternCapacity⟩
  let progress := evaluateAll settings host clock 0 start filters
  ({ matched := (progress.profiles.filter fun e => e.2.matched).map Prod.fst
     conditions := progress.shared.budget.consumed
     profiles := .ofList progress.profiles
     exhausted := progress.exhausted
     timedOut := progress.timedOut
     cached := false },
    progress.shared.memory)

/-- Run a batch of filters.  A batch that ran out of time leaves no verdict. -/
def run (settings : Settings) (host : Host) (clock : Clock) (filters : List Filter)
    (s : Situation) : BatchResult × Situation :=
  let filters := candidates filters
  match s.cache with
  | none =>
      let (result, memory) := evaluateBatch settings host clock filters s.memory
      (result, { s with memory, tags := tagIf result.exhausted settings s.tags })
  | some cache =>
      let key := keyOf s.memory.vars (filters.map Prod.snd)
      match cache.find? key with
      | some verdict =>
          (resultOf verdict, { s with tags := tagIf verdict.exhausted settings s.tags })
      | none =>
          let (result, memory) := evaluateBatch settings host clock filters s.memory
          let cache :=
            if result.timedOut then cache
            else cache.insert key ⟨result.matched, result.conditions, result.exhausted⟩
          (result, ⟨memory, tagIf result.exhausted settings s.tags, some cache⟩)

end Batch

end EditGuard
