import EditGuard.Guard
import EditGuard.Proofs.Batch.Replay
import EditGuard.Proofs.Consequence.Results

/-!
# The order of the store

A store gives the filters of a group in some order.  An action is judged in the same way in
whichever order they are given: they are evaluated by their identities, the cache is asked for
them in that order, and those that matched are found by their identities.
-/

namespace EditGuard

/-! ## Filters in another order -/

theorem Filter.loadActions_congr {f : Filter} {first second : FilterSource}
    (same : ∀ handle, first.load f handle = second.load f handle) :
    f.loadActions first = f.loadActions second := by
  rw [loadActions, loadActions]
  cases f.actions with
  | loaded actions => rfl
  | deferred handle => exact same handle

namespace Batch

open Variable (Host)

variable {settings : Settings}

theorem evaluateBatch_untimed (untimed : settings.runtimeLimitMs = none) (host : Host)
    (clock other : Clock) (candidates : List (FilterId × Filter)) (memory : Variable.Memory) :
    evaluateBatch settings host clock candidates memory =
      evaluateBatch settings host other candidates memory := by
  rw [evaluateBatch, evaluateBatch, evaluateAll_untimed untimed clock other 0 0]

/-- A batch does not depend on the order of its filters. -/
theorem run_of_perm (untimed : settings.runtimeLimitMs = none) (host : Host) (clock other : Clock)
    {fs gs : List Filter} (same : fs.Perm gs) (distinct : (fs.filterMap Filter.id).Nodup)
    (s : Situation) : run settings host clock fs s = run settings host other gs s := by
  have candidates : candidates fs = candidates gs :=
    candidates_eq_of_perm (distinct.sublist (ids_runnable_sublist fs)) (same.filterMap _)
  simp only [run, candidates, evaluateBatch_untimed untimed host clock other]

end Batch

namespace Guard

theorem filtersOf_of_perm {fs gs : List Filter} (same : fs.Perm gs)
    (distinct : (fs.filterMap Filter.id).Nodup) (ids : List FilterId) :
    filtersOf fs ids = filtersOf gs ids := by
  have distinctToo : (gs.filterMap Filter.id).Nodup := (same.filterMap _).nodup_iff.mp distinct
  refine List.filterMap_congr fun id _ => Option.ext fun f => ?_
  rw [Execution.find?_id_eq_some_iff distinct, Execution.find?_id_eq_some_iff distinctToo,
    same.mem_iff]

theorem mem_of_mem_filtersOf {fs : List Filter} {ids : List FilterId} {f : Filter}
    (mem : f ∈ filtersOf fs ids) : f ∈ fs := by
  obtain ⟨id, -, found⟩ := List.mem_filterMap.mp mem
  exact List.mem_of_find?_eq_some found

end Guard

/-! ## Consequences from another store -/

namespace Execution

variable {σ : Type} {first second : FilterSource}

theorem ofFilters_congr (p : Platform σ) (settings : Settings) (action : Action)
    {fs : List Filter} (same : ∀ f ∈ fs, f.loadActions first = f.loadActions second) :
    ofFilters p settings first action fs = ofFilters p settings second action fs := by
  induction fs with
  | nil => rfl
  | cons f fs ih =>
      have own : ofFilter p settings first action f = ofFilter p settings second action f := by
        rw [ofFilter, ofFilter, same f List.mem_cons_self]
      rw [ofFilters, ofFilters, own, ih fun g mem => same g (List.mem_cons_of_mem _ mem)]

/-- Stores that load the same actions for the filters that matched have the same
consequences. -/
theorem run_congr (p : Platform σ) (settings : Settings) (action : Action)
    {matched : List Filter} (same : ∀ f ∈ matched, f.loadActions first = f.loadActions second)
    (dump : Option String) :
    run p settings first action matched dump = run p settings second action matched dump := by
  rw [run, run, pending, pending, ofFilters_congr p settings action same]

end Execution

/-! ## What is logged -/

namespace Execution

theorem filterMap_audited_hitCalls (action : Action) (dump : Option String) (r : ExecutionResult)
    (fs : List Filter) :
    (fs.flatMap (hitCalls action dump r)).filterMap PlatformCall.audited? =
      fs.filterMap Filter.id := by
  induction fs with
  | nil => rfl
  | cons f fs ih =>
      rw [List.flatMap_cons, List.filterMap_append, ih, List.filterMap_cons, hitCalls]
      cases f.id <;> rfl

/-- The filters that are logged are those that matched, in their order. -/
theorem Logged.audited {σ : Type} {p : Platform σ} {settings : Settings} {source : FilterSource}
    {action : Action} {matched : List Filter} {dump : Option String} {scene : Scene σ}
    {result : ExecutionResult} {questions effects : List PlatformCall}
    (logged : Logged p settings source action matched dump scene result questions effects) :
    (questions ++ effects ++ matched.flatMap (hitCalls action dump result)).filterMap
      PlatformCall.audited? = matched.filterMap Filter.id := by
  have nothing : (questions ++ effects).filterMap PlatformCall.audited? = [] := by
    rw [List.filterMap_eq_nil_iff]
    intro call mem
    exact PlatformCall.audited?_of_not_isLogging (logged.notBefore call mem)
  rw [List.filterMap_append, nothing, List.nil_append, filterMap_audited_hitCalls]

end Execution

/-! ## Judging -/

namespace Guard

variable {σ : Type} {settings : Settings}

/-- An action is judged by the filters of its group. -/
theorem judge_eq {around : Surroundings σ} {group : String} {fs : List Filter}
    (given : around.filters.filters group = .ok fs) (action : Action) (p : Proceedings σ) :
    judge settings around group action p =
      let batch := Batch.run settings around.host around.clock fs p.situation
      let matched := filtersOf fs batch.1.matched
      let dump := dumpFor settings around.host matched batch.2.memory
      let ran := (Execution.run around.platform settings around.filters action matched dump.1).run
        ⟨p.platform, batch.2.tags⟩
      (.ok ⟨batch.1,
          { ran.1 with vetoed := ran.1.vetoed || vetoesExhaustion settings batch.1 }⟩,
        ⟨{ batch.2 with memory := dump.2, tags := ran.2.tags }, ran.2.platform⟩) := by
  rw [judge, given]
  rfl

/-- The filters of identities that are there have these identities. -/
theorem filterMap_id_filtersOf {fs : List Filter} {ids : List FilterId}
    (there : ∀ id ∈ ids, ∃ f ∈ fs, f.id = some id) :
    (filtersOf fs ids).filterMap Filter.id = ids := by
  induction ids with
  | nil => rfl
  | cons id ids ih =>
      obtain ⟨f, mem, isId⟩ := there id List.mem_cons_self
      have rest := ih fun other inside => there other (List.mem_cons_of_mem _ inside)
      rw [filtersOf, List.filterMap_cons]
      cases found : fs.find? (·.id == some id) with
      | none =>
          have noneFound := List.find?_eq_none.mp found f mem
          rw [isId] at noneFound
          exact absurd (beq_self_eq_true _) noneFound
      | some g =>
          have sameId := List.find?_some found
          rw [List.filterMap_cons, beq_iff_eq.mp sameId]
          exact congrArg _ rest

/-- Without kept verdicts the filters that matched are those whose profiles say so, in the
order of their identities. -/
theorem matched_of_uncached (host : Variable.Host) (clock : Clock) {fs : List Filter}
    (distinct : (fs.filterMap Filter.id).Nodup) {s : Batch.Situation} (uncached : s.cache = none) :
    let result := (Batch.run settings host clock fs s).1
    result.matched = (result.profiles.entries.filter (·.2.matched)).map Prod.fst ∧
      result.matched.Pairwise (fun a b => compare a b = .lt) ∧
      (filtersOf fs result.matched).filterMap Filter.id = result.matched := by
  intro result
  let start : Batch.Shared :=
    ⟨s.memory, .limited settings.conditionLimit, .empty settings.patternCapacity⟩
  let profiles := (Batch.evaluateAll settings host clock 0 start (Batch.candidates fs)).profiles
  have evaluated : result.matched = (profiles.filter (·.2.matched)).map Prod.fst ∧
      result.profiles = .ofList profiles := by
    have ran : result = _ := congrArg Prod.fst (Batch.run_of_uncached uncached clock fs)
    rw [ran]
    exact ⟨rfl, rfl⟩
  have ids : profiles.map Prod.fst <+: (Batch.candidates fs).map Prod.fst :=
    Batch.ids_profiles_prefix clock 0 start (Batch.candidates fs)
  have ordered : (profiles.map Prod.fst).Pairwise (fun a b => compare a b = .lt) :=
    (List.pairwise_map.mpr (Batch.ordered_candidates distinct)).sublist ids.sublist
  have entries : result.profiles.entries = profiles := by
    rw [evaluated.2]
    exact Dictionary.entries_ofList (List.pairwise_map.mp ordered)
  have inside : (result.matched).Sublist (profiles.map Prod.fst) := by
    rw [evaluated.1]
    exact List.filter_sublist.map _
  refine ⟨?_, ordered.sublist inside, filterMap_id_filtersOf fun id mem => ?_⟩
  · rw [entries]
    exact evaluated.1
  · obtain ⟨⟨_, f⟩, isCandidate, rfl⟩ := List.mem_map.mp (ids.subset (inside.subset mem))
    obtain ⟨given, -, isId⟩ := Batch.mem_candidates.mp isCandidate
    exact ⟨f, given, isId⟩

/-- The filters whose hits are logged are those that matched by their profiles, each once, in
the order of their identities. -/
structure AuditedInOrder (j : Judgement) (calls : List PlatformCall) : Prop where
  profiled : calls.filterMap PlatformCall.audited? =
    (j.batch.profiles.entries.filter (·.2.matched)).map Prod.fst
  matched : calls.filterMap PlatformCall.audited? = j.matched
  ascending : (calls.filterMap PlatformCall.audited?).Pairwise fun a b => compare a b = .lt

/-- Without kept verdicts an action is judged on a platform that records its use as it is on
the platform, and the hits are logged in order. -/
theorem judge_recorded (filters : FilterSource) (host : Variable.Host) (platform : Platform σ)
    (clock : Clock) {group : String} {fs : List Filter} (given : filters.filters group = .ok fs)
    (distinct : (fs.filterMap Filter.id).Nodup) (action : Action) {p : Proceedings σ}
    (uncached : p.situation.cache = none) :
    ∃ judgement after calls,
      judge settings ⟨filters, host, platform, clock⟩ group action p = (.ok judgement, after) ∧
      judge settings ⟨filters, host, platform.recorded, clock⟩ group action
        ⟨p.situation, (p.platform, [])⟩ =
          (.ok judgement, ⟨after.situation, (after.platform, calls)⟩) ∧
      AuditedInOrder judgement calls := by
  let batch := Batch.run settings host clock fs p.situation
  let matched := filtersOf fs batch.1.matched
  let dump := (dumpFor settings host matched batch.2.memory).1
  let scene : Scene σ := ⟨p.platform, batch.2.tags⟩
  let result := ((Execution.run platform settings filters action matched dump).run scene).1
  obtain ⟨profiled, ascending, isMatched⟩ :
      batch.1.matched = (batch.1.profiles.entries.filter (·.2.matched)).map Prod.fst ∧
        batch.1.matched.Pairwise (fun a b => compare a b = .lt) ∧
        matched.filterMap Filter.id = batch.1.matched :=
    matched_of_uncached host clock distinct uncached
  have distinctMatched : (matched.filterMap Filter.id).Nodup := by
    rw [isMatched]
    exact ascending.imp Dictionary.ne_of_compare_lt
  have logs : ∃ questions effects, Execution.Logged platform settings filters action matched dump
      scene result questions effects := Execution.exists_logged platform distinctMatched dump scene
  obtain ⟨questions, effects, logged⟩ := logs
  let calls := questions ++ effects ++ matched.flatMap (Execution.hitCalls action dump result)
  have audited : calls.filterMap PlatformCall.audited? = batch.1.matched :=
    logged.audited.trans isMatched
  refine ⟨_, _, calls, judge_eq given action p, ?_, ?_⟩
  case refine_1 =>
    have judged : judge settings ⟨filters, host, platform.recorded, clock⟩ group action
        ⟨p.situation, (p.platform, [])⟩ = _ := judge_eq given action _
    have ran : (Execution.run platform.recorded settings filters action matched dump).run
        ⟨(p.platform, []), batch.2.tags⟩ = _ := logged.logged
    simp only [batch, matched, dump] at ran
    rw [judged]
    simp only [ran]
    rfl
  case refine_2 =>
    exact ⟨audited.trans profiled, audited, audited ▸ ascending⟩

section

variable {first second : FilterSource} {group : String} {fs gs : List Filter}
  (untimed : settings.runtimeLimitMs = none) (given : first.filters group = .ok fs)
  (givenToo : second.filters group = .ok gs) (same : fs.Perm gs)
  (distinct : (fs.filterMap Filter.id).Nodup)
  (loads : ∀ f ∈ fs, ∀ handle, first.load f handle = second.load f handle)
include untimed given givenToo same distinct loads

theorem judge_of_perm (host : Variable.Host) (platform : Platform σ) (clock other : Clock)
    (action : Action) (p : Proceedings σ) :
    judge settings ⟨first, host, platform, clock⟩ group action p =
      judge settings ⟨second, host, platform, other⟩ group action p := by
  have sameRun (ids : List FilterId) (dump : Option String) :
      Execution.run platform settings first action (filtersOf gs ids) dump =
        Execution.run platform settings second action (filtersOf gs ids) dump := by
    apply Execution.run_congr
    intro f mem
    exact Filter.loadActions_congr (loads f (same.mem_iff.mpr (mem_of_mem_filtersOf mem)))
  rw [judge_eq given, judge_eq givenToo]
  simp only [Batch.run_of_perm untimed host clock other same distinct,
    filtersOf_of_perm same distinct, sameRun]

/-- An action is judged in the same way in whichever order its filters are given, on every
platform, so also on one that records its use: the judgement, and all that may change while
the action is judged, are the same.  Without kept verdicts the hits are logged in the order of
the identities of the filters that matched. -/
theorem judge_reordered (host : Variable.Host) (platform : Platform σ) (clock other : Clock)
    (action : Action) (p : Proceedings σ) :
    ∃ judgement after,
      judge settings ⟨first, host, platform, clock⟩ group action p = (.ok judgement, after) ∧
      judge settings ⟨second, host, platform, other⟩ group action p = (.ok judgement, after) ∧
      (p.situation.cache = none → ∃ calls,
        let start : Proceedings (σ × List PlatformCall) := ⟨p.situation, (p.platform, [])⟩
        let finish := ⟨after.situation, (after.platform, calls)⟩
        judge settings ⟨first, host, platform.recorded, clock⟩ group action start =
          (.ok judgement, finish) ∧
        judge settings ⟨second, host, platform.recorded, other⟩ group action start =
          (.ok judgement, finish) ∧
        AuditedInOrder judgement calls) := by
  have unordered {τ : Type} (platform : Platform τ) (p : Proceedings τ) :
      judge settings ⟨second, host, platform, other⟩ group action p =
        judge settings ⟨first, host, platform, clock⟩ group action p :=
    (judge_of_perm untimed given givenToo same distinct loads host platform clock other action
      p).symm
  refine ⟨_, _, judge_eq given action p, ?_, fun uncached => ?_⟩
  case refine_1 => exact (unordered platform p).trans (judge_eq given action p)
  case refine_2 =>
    obtain ⟨judgement, after, calls, judged, recorded, audited⟩ :=
      judge_recorded first host platform clock given distinct action uncached
    obtain ⟨sameJudgement, sameAfter⟩ :=
      Prod.mk.inj ((judge_eq given action p).symm.trans judged)
    rw [Except.ok.inj sameJudgement, sameAfter]
    exact ⟨calls, recorded, (unordered platform.recorded _).trans recorded, audited⟩

end

/-- A filter that vetoes and one whose actions are kept by the store, in two stores. -/
theorem judge_reordered_pair :
    let vetoing := (Filter.ofRules 2 "true").withAction "disallow" []
    let deferring := { Filter.ofRules 1 "true" with actions := .deferred 7 }
    let kept : Dictionary Nat Actions := .ofList [(7, Dictionary.empty.insert "tag" ["odd"])]
    let first := FilterStore.toSource ⟨[vetoing, deferring], kept⟩
    let second := FilterStore.toSource ⟨[deferring, vetoing], kept⟩
    let p : Proceedings Ledger := ⟨⟨⟨.empty, []⟩, .empty, none⟩, .opened 0⟩
    first.filters "default" = .ok [vetoing, deferring] ∧
      second.filters "default" = .ok [deferring, vetoing] ∧
      ∃ judgement after,
        judge {} ⟨first, .none, Ledger.platform, id⟩ "default" default p =
          (.ok judgement, after) ∧
        judge {} ⟨second, .none, Ledger.platform, id⟩ "default" default p =
          (.ok judgement, after) ∧
        ∃ calls, AuditedInOrder judgement calls := by
  intro vetoing deferring kept first second p
  have given : first.filters "default" = .ok [vetoing, deferring] := rfl
  have givenToo : second.filters "default" = .ok [deferring, vetoing] := rfl
  have untimed : ({} : Settings).runtimeLimitMs = none := rfl
  have distinct : ([vetoing, deferring].filterMap Filter.id).Nodup := by decide
  obtain ⟨judgement, after, judged, judgedToo, records⟩ :=
    judge_reordered untimed given givenToo (.swap ..) distinct (fun _ _ _ => rfl) .none
      Ledger.platform id id default p
  obtain ⟨calls, -, -, audited⟩ := records rfl
  exact ⟨given, givenToo, judgement, after, judged, judgedToo, calls, audited⟩

end Guard

end EditGuard
