import EditGuard.Proofs.Batch.Evaluation

/-!
# Verdicts that are used again

Batches that are run one after the other may keep their verdicts in one cache.  A verdict
that was kept once is never replaced, and a batch whose verdict was kept before has the
same verdict again.
-/

namespace EditGuard.Batch

open Variable (Memory Host)

/-! ## The order in which filters are given -/

/-- Filters with distinct identities are evaluated in the same order, in whichever order
they are given. -/
theorem candidates_eq_of_perm {fs gs : List Filter}
    (distinct : ((runnable fs).map Prod.fst).Nodup) (same : (runnable fs).Perm (runnable gs)) :
    candidates fs = candidates gs := by
  have distinctToo : ((runnable gs).map Prod.fst).Nodup := (same.map Prod.fst).nodup_iff.mp distinct
  refine eq_of_pairwise_lt Prod.fst (pairwise_lt_mergeSort Prod.fst distinct)
    (pairwise_lt_mergeSort Prod.fst distinctToo) fun candidate => ?_
  exact ((candidates_perm fs).trans (same.trans (candidates_perm gs).symm)).mem_iff

/-! ## One run -/

/-- What a run starts from, apart from the verdicts that are kept. -/
structure Submission where
  host : Host
  clock : Clock
  filters : List Filter
  memory : Memory
  tags : Tags

namespace Submission

/-- Run the filters with the verdicts that are kept. -/
def run (settings : Settings) (cache : VerdictCache) (c : Submission) :
    BatchResult × Situation :=
  Batch.run settings c.host c.clock c.filters ⟨c.memory, c.tags, some cache⟩

/-- The key under which the verdict is kept. -/
def key (c : Submission) : String :=
  keyOf c.memory.vars ((candidates c.filters).map Prod.snd)

/-- The result without regard to kept verdicts, and what is left in the memory. -/
def evaluation (settings : Settings) (c : Submission) : BatchResult × Memory :=
  evaluateBatch settings c.host c.clock (candidates c.filters) c.memory

end Submission

/-- What is kept of a result. -/
def verdictOf (r : BatchResult) : Verdict :=
  ⟨r.matched, r.conditions, r.exhausted⟩

theorem verdictOf_resultOf (v : Verdict) : verdictOf (resultOf v) = v :=
  rfl

section

variable {settings : Settings} {cache : VerdictCache} {c : Submission}

/-- A verdict that was kept is the result. -/
theorem Submission.run_of_hit {v : Verdict} (found : cache.find? c.key = some v) :
    c.run settings cache =
      (resultOf v, ⟨c.memory, tagIf v.exhausted settings c.tags, some cache⟩) := by
  have hit : cache.find? (keyOf c.memory.vars ((candidates c.filters).map Prod.snd)) = some v :=
    found
  rw [run, Batch.run]
  simp only [hit]

/-- If no verdict was kept, then the filters are evaluated and theirs is kept, unless they
ran out of time. -/
theorem Submission.run_of_miss (missing : cache.find? c.key = none) :
    c.run settings cache =
      ((c.evaluation settings).1,
        ⟨(c.evaluation settings).2,
          tagIf (c.evaluation settings).1.exhausted settings c.tags,
          some (if (c.evaluation settings).1.timedOut then cache
            else cache.insert c.key (verdictOf (c.evaluation settings).1))⟩) := by
  have miss : cache.find? (keyOf c.memory.vars ((candidates c.filters).map Prod.snd)) = none :=
    missing
  rw [run, Batch.run]
  simp only [miss]
  rfl

/-- Without a limit of time no batch runs out of it. -/
theorem timedOut_evaluateAll (untimed : settings.runtimeLimitMs = none) (host : Host)
    (clock : Clock) (candidates : List (FilterId × Filter)) (i : Nat) (s : Shared) :
    (evaluateAll settings host clock i s candidates).timedOut = false := by
  induction candidates generalizing i s with
  | nil => rfl
  | cons candidate rest ih =>
      rw [evaluateAll_cons untimed]
      dsimp only
      split
      · rfl
      · exact ih _ _

theorem Submission.cached_evaluation : (c.evaluation settings).1.cached = false :=
  rfl

/-- A result comes from the cache if and only if a verdict was kept. -/
theorem Submission.cached_run_iff :
    (c.run settings cache).1.cached = true ↔ ∃ v, cache.find? c.key = some v := by
  cases found : cache.find? c.key with
  | some v =>
      rw [run_of_hit found]
      exact iff_of_true rfl ⟨v, rfl⟩
  | none =>
      rw [run_of_miss found]
      refine iff_of_false (fun cached => ?_) nofun
      rw [cached_evaluation] at cached
      contradiction

/-- A run adds the tag of exhaustion if its verdict says so, and no other. -/
theorem Submission.tags_run :
    (c.run settings cache).2.tags =
      tagIf (c.run settings cache).1.exhausted settings c.tags := by
  cases found : cache.find? c.key with
  | some v =>
      rw [run_of_hit found]
      rfl
  | none => rw [run_of_miss found]

/-- What is kept after a run. -/
def Submission.keeps (settings : Settings) (cache : VerdictCache) (c : Submission) :
    VerdictCache :=
  (c.run settings cache).2.cache.getD cache

theorem Submission.keeps_of_hit {v : Verdict} (found : cache.find? c.key = some v) :
    c.keeps settings cache = cache := by
  rw [keeps, run_of_hit found]
  rfl

theorem Submission.keeps_of_miss (untimed : settings.runtimeLimitMs = none)
    (missing : cache.find? c.key = none) :
    c.keeps settings cache =
      cache.insert c.key (verdictOf (c.run settings cache).1) := by
  have inTime : (c.evaluation settings).1.timedOut = false :=
    timedOut_evaluateAll untimed c.host c.clock _ 0 _
  rw [keeps, run_of_miss missing]
  simp only [inTime, Bool.false_eq_true, if_false, Option.getD_some]

/-- After a run the verdict on it is kept. -/
theorem Submission.find?_keeps (untimed : settings.runtimeLimitMs = none) :
    (c.keeps settings cache).find? c.key = some (verdictOf (c.run settings cache).1) := by
  cases found : cache.find? c.key with
  | some v => rw [keeps_of_hit found, found, run_of_hit found, verdictOf_resultOf]
  | none => rw [keeps_of_miss untimed found, Dictionary.find?_insert, if_pos rfl]

/-- A verdict that was kept before a run is kept after it. -/
theorem Submission.find?_keeps_of_find? (untimed : settings.runtimeLimitMs = none) {k : String}
    {v : Verdict} (kept : cache.find? k = some v) :
    (c.keeps settings cache).find? k = some v := by
  cases found : cache.find? c.key with
  | some _ =>
      rw [keeps_of_hit found]
      exact kept
  | none =>
      have other : k ≠ c.key := by
        intro same
        rw [same, found] at kept
        cases kept
      rw [keeps_of_miss untimed found, Dictionary.find?_insert, if_neg other]
      exact kept

/-- A run after one with its key has the verdict of that. -/
theorem Submission.run_of_key_eq {d : Submission} (untimed : settings.runtimeLimitMs = none)
    (same : c.key = d.key) :
    (d.run settings (c.keeps settings cache)).1 =
      resultOf (verdictOf (c.run settings cache).1) := by
  have kept : (c.keeps settings cache).find? c.key = some _ := find?_keeps untimed
  rw [same] at kept
  rw [run_of_hit kept]

/-- A run is answered from the cache if a run with its key came before the last one. -/
theorem Submission.cached_of_key_eq (untimed : settings.runtimeLimitMs = none)
    {other again : Submission} (same : c.key = again.key) :
    (again.run settings (other.keeps settings (c.keeps settings cache))).1.cached = true := by
  have kept : (other.keeps settings (c.keeps settings cache)).find? c.key = some _ :=
    find?_keeps_of_find? untimed (find?_keeps untimed)
  rw [same] at kept
  exact cached_run_iff.mpr ⟨_, kept⟩

/-- The key depends on the variables and on which filters can be run, not on their order. -/
theorem Submission.key_eq_of_perm {d : Submission} (sameVariables : c.memory.vars = d.memory.vars)
    (distinct : ((runnable c.filters).map Prod.fst).Nodup)
    (sameFilters : (runnable c.filters).Perm (runnable d.filters)) : c.key = d.key := by
  rw [key, key, sameVariables, candidates_eq_of_perm distinct sameFilters]

end

/-! ## Histories -/

/-- A run of a history: what it starts from, the verdicts that are kept before it, and how
it ends. -/
structure Episode where
  submission : Submission
  before : VerdictCache
  result : BatchResult
  after : Situation

namespace Episode

def key (e : Episode) : String :=
  e.submission.key

def verdict (e : Episode) : Verdict :=
  verdictOf e.result

end Episode

/-- Runs one after the other, each with the verdicts that those before it have kept. -/
def history (settings : Settings) (cache : VerdictCache) : List Submission → List Episode
  | [] => []
  | c :: cs =>
      let ran := c.run settings cache
      ⟨c, cache, ran.1, ran.2⟩ :: history settings (c.keeps settings cache) cs

variable {settings : Settings} {cache : VerdictCache} {cs : List Submission}

theorem Episode.run_eq {e : Episode} (mem : e ∈ history settings cache cs) :
    e.submission.run settings e.before = (e.result, e.after) := by
  induction cs generalizing cache with
  | nil => cases mem
  | cons c cs ih =>
      rcases List.mem_cons.mp mem with rfl | later
      · rfl
      · exact ih later

/-- A verdict that is kept before a history is the one of all of its runs with this key. -/
theorem Episode.verdict_eq_of_find? (untimed : settings.runtimeLimitMs = none) {e : Episode}
    (mem : e ∈ history settings cache cs) {v : Verdict} (kept : cache.find? e.key = some v) :
    e.verdict = v := by
  induction cs generalizing cache with
  | nil => cases mem
  | cons c cs ih =>
      rcases List.mem_cons.mp mem with rfl | later
      · have hit : c.run settings cache = _ := Submission.run_of_hit kept
        rw [verdict, hit, verdictOf_resultOf]
      · exact ih later (Submission.find?_keeps_of_find? untimed kept)

/-- Runs of a history with the same key have the same verdict. -/
theorem Episode.verdict_eq_of_key (untimed : settings.runtimeLimitMs = none) {d e : Episode}
    (first : d ∈ history settings cache cs) (second : e ∈ history settings cache cs)
    (same : d.key = e.key) : d.verdict = e.verdict := by
  induction cs generalizing cache with
  | nil => cases first
  | cons c cs ih =>
      have kept : (c.keeps settings cache).find? c.key =
        some (verdictOf (c.run settings cache).1) := Submission.find?_keeps untimed
      rcases List.mem_cons.mp first with rfl | firstLater
      · rcases List.mem_cons.mp second with rfl | secondLater
        · rfl
        · have sameKey : c.key = e.key := same
          rw [sameKey] at kept
          exact (verdict_eq_of_find? untimed secondLater kept).symm
      · rcases List.mem_cons.mp second with rfl | secondLater
        · have sameKey : d.key = c.key := same
          rw [← sameKey] at kept
          exact verdict_eq_of_find? untimed firstLater kept
        · exact ih firstLater secondLater

/-- The tags that a run adds, by its verdict. -/
theorem Episode.tags_eq {e : Episode} (mem : e ∈ history settings cache cs) :
    e.after.tags = tagIf e.verdict.exhausted settings e.submission.tags := by
  have ran := run_eq mem
  have tags : (e.submission.run settings e.before).2.tags = _ := Submission.tags_run
  rw [ran] at tags
  exact tags

theorem tagIf_eq_addAll (exhausted : Bool) (settings : Settings) (tags : Tags) :
    tagIf exhausted settings tags =
      tags.addAll (if exhausted then [settings.exhaustionTag] else []) := by
  cases exhausted <;> rfl

/-- What a run that is answered from the cache leaves as it was.  Whatever the host, it is
not asked. -/
theorem Episode.unchanged_of_cached {e : Episode} (mem : e ∈ history settings cache cs)
    (cached : e.result.cached = true) :
    e.after.memory = e.submission.memory ∧ e.after.cache = some e.before ∧
      ∀ host, { e.submission with host }.run settings e.before = (e.result, e.after) := by
  have ran := run_eq mem
  have hit : (e.submission.run settings e.before).1.cached = true := by
    rw [ran]
    exact cached
  obtain ⟨v, found⟩ := Submission.cached_run_iff.mp hit
  have answered : e.submission.run settings e.before = _ := Submission.run_of_hit found
  rw [ran] at answered
  obtain ⟨result, after⟩ := Prod.mk.inj answered
  refine ⟨by rw [after], by rw [after], fun host => ?_⟩
  have other : ({ e.submission with host } : Submission).run settings e.before = _ :=
    Submission.run_of_hit found
  rw [other, result, after]

/-- In every history of runs through one cache that is empty at first, runs that start from
equal variables and from the same filters, in any order, have the same verdict and add the
same tags, whichever of them is answered from the cache and whatever runs in between.  A run
that is answered from the cache asks no host and changes neither memory nor cache. -/
theorem history_consistent (untimed : settings.runtimeLimitMs = none) (cs : List Submission) :
    (∀ d ∈ history settings .empty cs, ∀ e ∈ history settings .empty cs,
      d.submission.memory.vars = e.submission.memory.vars →
      ((runnable d.submission.filters).map Prod.fst).Nodup →
      (runnable d.submission.filters).Perm (runnable e.submission.filters) →
        d.result.matched = e.result.matched ∧ d.result.conditions = e.result.conditions ∧
          d.result.exhausted = e.result.exhausted ∧
          ∃ added, d.after.tags = d.submission.tags.addAll added ∧
            e.after.tags = e.submission.tags.addAll added) ∧
    ∀ e ∈ history settings .empty cs, e.result.cached = true →
      e.after.memory = e.submission.memory ∧ e.after.cache = some e.before ∧
        ∀ host, { e.submission with host }.run settings e.before = (e.result, e.after) := by
  refine ⟨?_, fun e mem cached => Episode.unchanged_of_cached mem cached⟩
  intro d first e second sameVariables distinct sameFilters
  have sameKey := Submission.key_eq_of_perm sameVariables distinct sameFilters
  have same := Episode.verdict_eq_of_key untimed first second sameKey
  obtain ⟨matched, conditions, exhausted⟩ := Verdict.mk.inj same
  have tagsFirst := Episode.tags_eq first
  have tagsSecond := Episode.tags_eq second
  rw [same, tagIf_eq_addAll] at tagsFirst
  rw [tagIf_eq_addAll] at tagsSecond
  exact ⟨matched, conditions, exhausted, _, tagsFirst, tagsSecond⟩

/-- An edit by a user with a number of edits, on which two filters are run. -/
def editBy (count : Int64) (filters : List Filter) (host : Host) : Submission :=
  let vs : Variables := .empty
  let vs := vs.setPending "new_size" ⟨.intrinsic .length, [.text "new_wikitext"]⟩
  ⟨host, id, filters, ⟨vs.set "user_editcount" (.int count), []⟩, .empty⟩

/-- The same edit is judged a second time after another one, by the same filters in another
order: its verdict comes from the cache and is the first one. -/
theorem history_consistent_reordered :
    let first := Filter.ofRules 1 "user_editcount == 5"
    let second := Filter.ofRules 2 "new_size > 0"
    ∃ d between e, history {} .empty
        [editBy 5 [first, second] .none, editBy 6 [first] .none, editBy 5 [second, first] .none] =
          [d, between, e] ∧
      d.result.matched = e.result.matched ∧ d.result.conditions = e.result.conditions ∧
        e.result.cached = true ∧ e.after.cache = some e.before := by
  intro first second
  have distinct : ((runnable [first, second]).map Prod.fst).Nodup := by decide
  have swapped : (runnable [first, second]).Perm (runnable [second, first]) :=
    (List.Perm.swap second first []).filterMap _
  -- The runs are taken as they come, since no step needs what they evaluate to.
  have threeRuns (c other again : Submission) (sameVariables : c.memory.vars = again.memory.vars)
      (distinct : ((runnable c.filters).map Prod.fst).Nodup)
      (sameFilters : (runnable c.filters).Perm (runnable again.filters)) :
      ∃ d between e, history {} .empty [c, other, again] = [d, between, e] ∧
        d.result.matched = e.result.matched ∧ d.result.conditions = e.result.conditions ∧
          e.result.cached = true ∧ e.after.cache = some e.before := by
    have untimed : ({} : Settings).runtimeLimitMs = none := rfl
    have consistent := history_consistent untimed [c, other, again]
    obtain ⟨matched, conditions, -⟩ :=
      consistent.1 _ List.mem_cons_self _
        (List.mem_cons_of_mem _ (List.mem_cons_of_mem _ List.mem_cons_self))
        sameVariables distinct sameFilters
    have cached : (again.run {} (other.keeps {} (c.keeps {} .empty))).1.cached = true :=
      Submission.cached_of_key_eq untimed
        (Submission.key_eq_of_perm sameVariables distinct sameFilters)
    obtain ⟨-, keptCache, -⟩ := consistent.2 _
      (List.mem_cons_of_mem _ (List.mem_cons_of_mem _ List.mem_cons_self)) cached
    exact ⟨_, _, _, rfl, matched, conditions, cached, keptCache⟩
  exact threeRuns (editBy 5 [first, second] .none) (editBy 6 [first] .none)
    (editBy 5 [second, first] .none) rfl distinct swapped

end EditGuard.Batch
