import Mathlib.Algebra.Ring.Nat
import EditGuard.Proofs.Batch.Evaluation
import EditGuard.Proofs.Rule.Agreement

/-!
# Filters do not affect each other

The filters of a batch share the memory of the variables, the cache of patterns and the
budget.  If the budget suffices for all of them and the answers of the host depend on
the questions only, then each filter has the profile that it has alone.
-/

namespace EditGuard.Batch

open Rule (Faithful)
open Variable (Host Memory Request Learns)

/-! ## A filter alone -/

/-- What a filter is evaluated with when nothing comes before it and nothing limits it. -/
def fresh (settings : Settings) (memory : Memory) : Shared :=
  ⟨memory, .unlimited, .empty settings.patternCapacity⟩

/-- The evaluation of a filter alone. -/
def evaluateAlone (settings : Settings) (host : Host) (memory : Memory)
    (candidate : FilterId × Filter) : Outcome × Shared :=
  evaluate host (sourceOf candidate.1 candidate.2) (fresh settings memory)

/-- The conditions that a filter consumes alone. -/
def demand (settings : Settings) (host : Host) (memory : Memory)
    (candidate : FilterId × Filter) : Nat :=
  (evaluateAlone settings host memory candidate).2.budget.consumed

/-- The profile of a filter that is evaluated alone. -/
def profileAlone (settings : Settings) (host : Host) (memory : Memory)
    (candidate : FilterId × Filter) : Profile :=
  profileOf settings (sourceOf candidate.1 candidate.2) (fresh settings memory)
    (evaluateAlone settings host memory candidate)

/-! ## A filter after others -/

variable {settings : Settings} {host : Host} {answer : Request → Except Fault Value}
  {memory : Memory}

/-- After others a filter ends as it does alone.  What was kept stays right, and the budget
is charged with what the filter consumes alone. -/
theorem evaluate_after_others (answers : host.Answers answer)
    (never : ∀ request o, answer request ≠ .error (.overrun o))
    (candidate : FilterId × Filter) {s : Shared} {limit consumed : Nat}
    (kept : Faithful answer memory.vars s.memory s.patterns)
    (budget : s.budget = ⟨limit, consumed, true⟩) (limitCounted : limit ≤ Budget.countLimit)
    (affordable : consumed + demand settings host memory candidate ≤ limit) :
    let result := evaluate host (sourceOf candidate.1 candidate.2) s
    result.1 = (evaluateAlone settings host memory candidate).1 ∧
      endsBatch result.1 = false ∧
      Faithful answer memory.vars result.2.memory result.2.patterns ∧
      result.2.budget =
        ⟨limit, consumed + demand settings host memory candidate, true⟩ := by
  intro result
  cases parsed : (sourceOf candidate.1 candidate.2).parse with
  | error f =>
      have here : result = (.malformed f, s) := evaluate_of_malformed parsed
      have alone : evaluateAlone settings host memory candidate =
        (.malformed f, fresh settings memory) := evaluate_of_malformed parsed
      have nothing : demand settings host memory candidate = 0 := by
        rw [demand, alone]
        rfl
      rw [here, alone, nothing, budget]
      exact ⟨rfl, rfl, kept, rfl⟩
  | ok rule =>
      have composed := Rule.composed_matchesAction host rule
      have here : result = _ := evaluate_of_parsed parsed
      have alone : evaluateAlone settings host memory candidate = _ := evaluate_of_parsed parsed
      -- The same evaluation, here and alone, under a budget that only counts.
      let free : Rule.State := { s.start with budget := .unlimited }
      have alike : Rule.Alike answer memory.vars free (fresh settings memory).start :=
        ⟨kept, ⟨.refl, Pattern.Cache.sound_empty _⟩, rfl, rfl⟩
      obtain ⟨same, finish⟩ := composed.agrees answers _ _ alike
      have uncut := (composed.uncut (answers.neverOverruns never) free rfl).1
      have counted : ((Rule.matchesAction host rule).run.run free).2.budget.consumed =
          demand settings host memory candidate := by
        rw [finish.budget, demand, alone]
        rfl
      have started : consumed ≤ limit := Nat.le_trans (Nat.le_add_right _ _) affordable
      have total : min (consumed + demand settings host memory candidate) Budget.countLimit =
          consumed + demand settings host memory candidate :=
        Nat.min_eq_left (Nat.le_trans affordable limitCounted)
      have start : { s.start with budget := ⟨limit, consumed, true⟩ } = s.start := by
        rw [← budget]
        rfl
      have limited := (composed.run_limited s.start limitCounted started).2.1
        (.inl (by rw [counted]; exact affordable))
      rw [counted, start, total] at limited
      rw [here, alone, limited]
      exact ⟨congrArg Outcome.ofResult same, endsBatch_ofResult uncut, finish.left, rfl⟩

/-! ## All filters -/

/-- If the budget suffices, every filter of a batch has the profile that it has alone. -/
theorem profiles_evaluateAll (untimed : settings.runtimeLimitMs = none)
    (answers : host.Answers answer) (never : ∀ request o, answer request ≠ .error (.overrun o))
    (clock : Clock) {limit : Nat} (limitCounted : limit ≤ Budget.countLimit) :
    ∀ (candidates : List (FilterId × Filter)) (i : Nat) (s : Shared) (consumed : Nat),
      Faithful answer memory.vars s.memory s.patterns → s.budget = ⟨limit, consumed, true⟩ →
      consumed + (candidates.map (demand settings host memory)).sum ≤ limit →
      (evaluateAll settings host clock i s candidates).profiles =
        candidates.map fun c => (c.1, profileAlone settings host memory c) := by
  intro candidates
  induction candidates with
  | nil => exact fun _ _ _ _ _ _ => rfl
  | cons candidate rest ih =>
      intro i s consumed kept budget affordable
      obtain ⟨id, f⟩ := candidate
      rw [List.map_cons, List.sum_cons] at affordable
      have first : consumed + demand settings host memory (id, f) ≤ limit := by omega
      obtain ⟨outcome, goesOn, stillKept, charged⟩ :=
        evaluate_after_others answers never (id, f) kept budget limitCounted first
      have later := ih (i + 1) (evaluate host (sourceOf id f) s).2 _ stillKept charged (by omega)
      have profile : profileOf settings (sourceOf id f) s (evaluate host (sourceOf id f) s) =
          profileAlone settings host memory (id, f) := by
        rw [profileOf, profileAlone, profileOf, charged, budget, outcome, Nat.add_sub_cancel_left]
        rfl
      rw [evaluateAll_cons untimed]
      simp only [goesOn, later, profile]
      rfl

/-- The profiles that a batch leaves if its budget suffices. -/
theorem find?_profiles_run (untimed : settings.runtimeLimitMs = none)
    (answers : host.Answers answer) (never : ∀ request o, answer request ≠ .error (.overrun o))
    (limitCounted : settings.conditionLimit ≤ Budget.countLimit) (clock : Clock)
    {filters : List Filter} {s : Situation} (uncached : s.cache = none)
    (distinct : (filters.filterMap Filter.id).Nodup)
    (affordable : ((candidates filters).map (demand settings host s.memory)).sum ≤
      settings.conditionLimit) {id : FilterId} {f : Filter} (mem : (id, f) ∈ candidates filters) :
    (run settings host clock filters s).1.profiles.find? id =
      some (profileAlone settings host s.memory (id, f)) := by
  have profiles := profiles_evaluateAll untimed answers never clock limitCounted
    (candidates filters) 0
    ⟨s.memory, .limited settings.conditionLimit, .empty settings.patternCapacity⟩ 0
    ⟨.refl, Pattern.Cache.sound_empty _⟩ rfl (by rwa [Nat.zero_add])
  have ordered : ((candidates filters).map fun c =>
      (c.1, profileAlone settings host s.memory c)).Pairwise fun a b => compare a.1 b.1 = .lt :=
    List.pairwise_map.mpr (ordered_candidates distinct)
  rw [run_of_uncached uncached, ← Dictionary.mem_entries_iff]
  simp only [evaluateBatch, profiles]
  rw [Dictionary.entries_ofList ordered]
  exact List.mem_map.mpr ⟨(id, f), mem, rfl⟩

/-- If the budget suffices for all filters, then the profile of a filter in a batch is the
one that it has in a batch of its own.  Neither the other filters nor what they have left
behind can change it. -/
theorem profile_isolated {settings : Settings} {host : Host}
    {answer : Request → Except Fault Value} (answers : host.Answers answer)
    (never : ∀ request o, answer request ≠ .error (.overrun o))
    (untimed : settings.runtimeLimitMs = none)
    (limitCounted : settings.conditionLimit ≤ Budget.countLimit) (clock other : Clock)
    {filters : List Filter} {s : Situation} (uncached : s.cache = none)
    (distinct : (filters.filterMap Filter.id).Nodup)
    (affordable : ((candidates filters).map (demand settings host s.memory)).sum ≤
      settings.conditionLimit)
    {f : Filter} (mem : f ∈ filters) (isRunnable : f.isRunnable = true) {id : FilterId}
    (named : f.id = some id) :
    ∃ profile, (run settings host clock filters s).1.profiles.find? id = some profile ∧
      (run settings host other [f] s).1.profiles.find? id = some profile := by
  have isCandidate := mem_candidates.mpr ⟨mem, isRunnable, named⟩
  have alone := candidates_singleton isRunnable named
  have aloneAffordable : ((candidates [f]).map (demand settings host s.memory)).sum ≤
      settings.conditionLimit := by
    obtain ⟨before, after, split⟩ := List.append_of_mem isCandidate
    rw [split, List.map_append, List.map_cons, List.sum_append, List.sum_cons] at affordable
    rw [alone, List.map_singleton, List.sum_singleton]
    omega
  have aloneDistinct : ([f].filterMap Filter.id).Nodup := by
    rw [List.filterMap_cons, named]
    exact List.pairwise_singleton _ id
  refine ⟨profileAlone settings host s.memory (id, f), ?_, ?_⟩
  · exact find?_profiles_run untimed answers never limitCounted clock uncached distinct
      affordable isCandidate
  · exact find?_profiles_run untimed answers never limitCounted other uncached aloneDistinct
      aloneAffordable (by rw [alone]; exact List.mem_singleton.mpr rfl)

/-- An action of which only the new text is known; its length is computed when it is read. -/
def measuredText : Situation :=
  let vs : Variables := .empty
  let vs := vs.setPending "new_size" ⟨.intrinsic .length, [.text "new_wikitext"]⟩
  ⟨⟨vs.set "new_wikitext" (.text "ab"), []⟩, .empty, none⟩

/-- Of two filters that read the length, the second one finds it computed, but has the
profile that it has alone. -/
theorem profile_isolated_measuredText :
    let first := Filter.ofRules 1 "new_size == 2"
    let second := Filter.ofRules 2 "new_size > 1 & true"
    ∃ profile, (run {} Host.none id [first, second] measuredText).1.profiles.find? ⟨false, 2⟩ =
        some profile ∧
      (run {} Host.none id [second] measuredText).1.profiles.find? ⟨false, 2⟩ = some profile := by
  intro first second
  have answers : Host.none.Answers fun request =>
      .error (.defect (.noComputation request.method.record)) := fun _ _ => rfl
  have affordable : ((candidates [first, second]).map
      (demand {} Host.none measuredText.memory)).sum ≤ 1000 := by
    rw [((candidates_perm _).map _).sum_nat]
    decide +kernel
  exact profile_isolated answers (by rintro request o ⟨⟩) rfl (by decide) id id rfl
    (by decide) affordable (List.mem_cons_of_mem _ List.mem_cons_self) rfl rfl

end EditGuard.Batch
