import EditGuard.Proofs.Batch.Candidates
import EditGuard.Proofs.Rule.Exhaustion

/-!
# How a batch evaluates its filters

The equations of the evaluation of one filter and of all filters of a batch that has
no limit of time and keeps no verdicts.
-/

namespace EditGuard.Batch

open Variable (Host)

/-! ## One filter -/

/-- How the evaluation of a filter ends, given how its rule does. -/
def Outcome.ofResult : Except Rule.Failure Bool → Outcome
  | .ok matched => .verdict matched
  | .error f => .failed f

/-- What is left of the state of an evaluation. -/
def Shared.ofState (s : Rule.State) : Shared :=
  ⟨s.memory, s.budget, s.patterns⟩

/-- The state in which an evaluation starts. -/
def Shared.start (s : Shared) : Rule.State :=
  ⟨s.memory, s.budget, s.patterns, .empty⟩

theorem evaluate_of_malformed {host : Host} {source : Rule.Source} {s : Shared}
    {f : Rule.Finding} (parsed : source.parse = .error f) :
    evaluate host source s = (.malformed f, s) := by
  rw [evaluate, parsed]

theorem evaluate_of_parsed {host : Host} {source : Rule.Source} {s : Shared} {rule : Rule}
    (parsed : source.parse = .ok rule) :
    evaluate host source s =
      (.ofResult ((Rule.matchesAction host rule).run.run s.start).1,
        .ofState ((Rule.matchesAction host rule).run.run s.start).2) := by
  rw [evaluate, parsed]
  simp only [Shared.start]
  rcases (Rule.matchesAction host rule).run.run ⟨s.memory, s.budget, s.patterns, .empty⟩
    with ⟨outcome, finish⟩
  cases outcome <;> rfl

/-- A batch ends when its conditions were used up. -/
theorem endsBatch_iff {outcome : Outcome} :
    endsBatch outcome = true ↔
      ∃ limit, outcome = .failed (.fault (.overrun (.conditions limit))) := by
  constructor
  · intro ends
    unfold endsBatch at ends
    split at ends
    · unfold Rule.Failure.isExhaustion at ends
      split at ends
      · exact ⟨_, rfl⟩
      · contradiction
    · contradiction
  · rintro ⟨limit, rfl⟩
    rfl

theorem endsBatch_ofResult {outcome : Except Rule.Failure Bool}
    (within : Rule.WithinLimits outcome) : endsBatch (.ofResult outcome) = false := by
  cases outcome with
  | ok matched => rfl
  | error f =>
      cases f with
      | finding f => rfl
      | fault f =>
          cases f with
          | overrun o => exact absurd rfl (within o)
          | _ => rfl

/-! ## All filters -/

/-- The profile of a filter that was evaluated. -/
def profileOf (settings : Settings) (source : Rule.Source) (before : Shared)
    (result : Outcome × Shared) : Profile :=
  { conditions := result.2.budget.consumed - before.budget.consumed
    matched := isMatch settings.failurePolicy result.1
    error := errorText source result.1 }

variable {settings : Settings} {host : Host}

/-- The first filter of a batch ends it, or is followed by the others. -/
theorem evaluateAll_cons (untimed : settings.runtimeLimitMs = none) (clock : Clock) (i : Nat)
    (s : Shared) (id : FilterId) (f : Filter) (rest : List (FilterId × Filter)) :
    evaluateAll settings host clock i s ((id, f) :: rest) =
      let result := evaluate host (sourceOf id f) s
      let profile := profileOf settings (sourceOf id f) s result
      if endsBatch result.1 then ⟨[(id, profile)], true, false, result.2⟩
      else
        let later := evaluateAll settings host clock (i + 1) result.2 rest
        { later with profiles := (id, profile) :: later.profiles } := by
  rw [evaluateAll, untimed]
  rfl

/-- Without a limit of time a batch does not depend on the clock. -/
theorem evaluateAll_untimed (untimed : settings.runtimeLimitMs = none) (clock other : Clock)
    (i j : Nat) (s : Shared) (candidates : List (FilterId × Filter)) :
    evaluateAll settings host clock i s candidates =
      evaluateAll settings host other j s candidates := by
  induction candidates generalizing i j s with
  | nil => rfl
  | cons candidate rest ih =>
      rw [evaluateAll_cons untimed, evaluateAll_cons untimed]
      dsimp only
      rw [ih (i + 1) (j + 1)]

/-- The first filters of a batch have profiles. -/
theorem ids_profiles_prefix (clock : Clock) (i : Nat) (s : Shared)
    (candidates : List (FilterId × Filter)) :
    (evaluateAll settings host clock i s candidates).profiles.map Prod.fst <+:
      candidates.map Prod.fst := by
  induction candidates generalizing i s with
  | nil => exact List.nil_prefix
  | cons candidate rest ih =>
      obtain ⟨id, f⟩ := candidate
      rw [evaluateAll]
      split
      · exact List.nil_prefix
      · dsimp only
        split
        · exact List.cons_prefix_cons.mpr ⟨rfl, List.nil_prefix⟩
        · exact List.cons_prefix_cons.mpr ⟨rfl, ih (i + 1) _⟩

/-- A batch that keeps no verdicts evaluates its filters. -/
theorem run_of_uncached {s : Situation} (uncached : s.cache = none) (clock : Clock)
    (filters : List Filter) :
    run settings host clock filters s =
      let result := evaluateBatch settings host clock (candidates filters) s.memory
      (result.1,
        { s with memory := result.2, tags := tagIf result.1.exhausted settings s.tags }) := by
  rw [run, uncached]

end EditGuard.Batch
