import EditGuard.Guard
import EditGuard.Proofs.Batch.Evaluation
import EditGuard.Proofs.Rule.KeptPatterns

/-!
# Single rules and batches of one filter

A rule that is tried on an action by the guard is judged as it is in a batch of its own.
The guard keeps patterns from one rule to the next, and a batch starts with none; no use of
the guard can tell which patterns it has kept.
-/

namespace EditGuard

open Variable (Host Memory)

/-! ## A filter alone in its batch -/

namespace Batch

variable {settings : Settings}

theorem ofResult_eq_failed_iff {result : Except Rule.Failure Bool} {f : Rule.Failure} :
    Outcome.ofResult result = .failed f ↔ result = .error f := by
  cases result with
  | ok matched => exact iff_of_false nofun nofun
  | error e => rw [Outcome.ofResult, Outcome.failed.injEq, Except.error.injEq]

/-- What the first filter of a batch is evaluated with. -/
def Shared.first (settings : Settings) (memory : Memory) : Shared :=
  ⟨memory, .limited settings.conditionLimit, .empty settings.patternCapacity⟩

/-- A batch of one filter consists in the evaluation of that filter. -/
theorem run_singleton (untimed : settings.runtimeLimitMs = none) (host : Host) (clock : Clock)
    {s : Situation} (uncached : s.cache = none) {id : FilterId} {f : Filter}
    (isRunnable : f.isRunnable = true) (named : f.id = some id) :
    let start := Shared.first settings s.memory
    let result := evaluate host (sourceOf id f) start
    let profile := profileOf settings (sourceOf id f) start result
    let ran := run settings host clock [f] s
    ran.1.matched = (if profile.matched then [id] else []) ∧
      ran.1.profiles.find? id = some profile ∧ ran.1.exhausted = endsBatch result.1 ∧
      ran.2.memory = result.2.memory := by
  intro start result profile ran
  have alone : evaluateAll settings host clock 0 start [(id, f)] =
      ⟨[(id, profile)], endsBatch result.1, false, result.2⟩ := by
    rw [evaluateAll_cons untimed]
    by_cases ends : endsBatch result.1 = true
    · rw [if_pos ends, ends]
    · rw [if_neg ends, Bool.eq_false_iff.mpr ends]
      rfl
  have whole : ran = _ := run_of_uncached uncached clock [f]
  have matched : (([(id, profile)].filter fun e => e.2.matched).map Prod.fst) =
      if profile.matched then [id] else [] := by
    cases isMatch : profile.matched <;> simp [isMatch]
  have kept : (Dictionary.ofList [(id, profile)]).find? id = some profile := by
    rw [← Dictionary.mem_entries_iff, Dictionary.entries_ofList (List.pairwise_singleton _ _)]
    exact List.mem_singleton.mpr rfl
  rw [whole, candidates_singleton isRunnable named]
  simp only [evaluateBatch]
  rw [show evaluateAll settings host clock 0 ⟨s.memory, _, _⟩ [(id, f)] = _ from alone]
  exact ⟨matched, kept, rfl, rfl⟩

end Batch

/-! ## Guards in use -/

namespace Guard

/-- The guards that a new one becomes when single rules are tried with it. -/
inductive Reached (settings : Settings) : Guard → Prop
  | new : Reached settings (ofSettings settings)
  | matchesAction {g : Guard} (earlier : Reached settings g) (host : Host) (text : String)
      (memory : Memory) : Reached settings (g.matchesAction host text memory).2.1
  | calculate {g : Guard} (earlier : Reached settings g) (timestamp text : String) :
      Reached settings (g.calculate timestamp text).2

theorem evaluate_of_malformed {α : Type} {g : Guard} {source : Rule.Source} {f : Rule.Finding}
    (parsed : source.parse = .error f) (budget : Budget) (run : Rule → Rule.Eval α)
    (memory : Memory) :
    g.evaluate source budget run memory = (.error (.finding f), g, memory) := by
  rw [evaluate, parsed]

theorem evaluate_of_parsed {α : Type} {g : Guard} {source : Rule.Source} {rule : Rule}
    (parsed : source.parse = .ok rule) (budget : Budget) (run : Rule → Rule.Eval α)
    (memory : Memory) :
    g.evaluate source budget run memory =
      let ran := (run rule).run.run ⟨memory, budget, g.patterns, .empty⟩
      (ran.1, { g with patterns := ran.2.patterns }, ran.2.memory) := by
  rw [evaluate, parsed]
  rfl

/-- How an evaluation by a guard ends does not depend on the patterns that it has kept. -/
theorem evaluate_eq {α : Type} {host : Host} {run : Rule → Rule.Eval α}
    (composed : ∀ rule, Rule.Composed host (run rule)) (source : Rule.Source) (budget : Budget)
    (memory : Memory) :
    ∃ outcome left, ∀ g : Guard, g.patterns.Sound → ∃ d : Pattern.Cache, d.Sound ∧
      g.evaluate source budget run memory = (outcome, { g with patterns := d }, left) := by
  cases parsed : source.parse with
  | error f =>
      exact ⟨.error (.finding f), memory, fun g sound =>
        ⟨g.patterns, sound, evaluate_of_malformed parsed budget run memory⟩⟩
  | ok rule =>
      obtain ⟨outcome, finish, ran⟩ :=
        (composed rule).ignoresPatterns ⟨memory, budget, .empty 0, .empty⟩
      refine ⟨outcome, finish.memory, fun g sound => ?_⟩
      obtain ⟨d, soundAfter, here⟩ := ran g.patterns sound
      refine ⟨d, soundAfter, ?_⟩
      rw [evaluate_of_parsed parsed]
      simp only [here]

variable {settings : Settings} {g : Guard}

/-- A guard in use has its settings and a sound cache of patterns. -/
theorem Reached.sound (reached : Reached settings g) :
    g.settings = settings ∧ g.patterns.Sound := by
  induction reached with
  | new => exact ⟨rfl, Pattern.Cache.sound_empty _⟩
  | @matchesAction g _ host text memory ih =>
      obtain ⟨outcome, left, ends⟩ := evaluate_eq (Rule.composed_matchesAction host)
        (filterSource text) (.limited g.settings.conditionLimit) memory
      obtain ⟨d, sound, here⟩ := ends g ih.2
      rw [Guard.matchesAction, here]
      exact ⟨ih.1, sound⟩
  | @calculate g _ timestamp text ih =>
      obtain ⟨outcome, left, ends⟩ := evaluate_eq (Rule.composed_evaluate .none)
        (expressionSource text) .unlimited ⟨generalVariables g.settings timestamp, []⟩
      obtain ⟨d, sound, here⟩ := ends g ih.2
      rw [Guard.calculate, here]
      exact ⟨ih.1, sound⟩

/-- What a guard in use finds out about a rule is what every other one with its settings
does. -/
theorem Reached.matchesAction_eq {h : Guard} (left : Reached settings g)
    (right : Reached settings h) (host : Host) (text : String) (memory : Memory) :
    (g.matchesAction host text memory).1 = (h.matchesAction host text memory).1 ∧
      (g.matchesAction host text memory).2.2 = (h.matchesAction host text memory).2.2 := by
  obtain ⟨outcome, memoryAfter, ends⟩ := evaluate_eq (Rule.composed_matchesAction host)
    (filterSource text) (.limited settings.conditionLimit) memory
  obtain ⟨_, -, here⟩ := ends g left.sound.2
  obtain ⟨_, -, there⟩ := ends h right.sound.2
  rw [Guard.matchesAction, Guard.matchesAction, left.sound.1, right.sound.1, here, there]
  exact ⟨rfl, rfl⟩

theorem Reached.calculate_eq {h : Guard} (left : Reached settings g) (right : Reached settings h)
    (timestamp text : String) :
    (g.calculate timestamp text).1 = (h.calculate timestamp text).1 := by
  obtain ⟨outcome, memoryAfter, ends⟩ := evaluate_eq (Rule.composed_evaluate .none)
    (expressionSource text) .unlimited ⟨generalVariables settings timestamp, []⟩
  obtain ⟨_, -, here⟩ := ends g left.sound.2
  obtain ⟨_, -, there⟩ := ends h right.sound.2
  rw [Guard.calculate, Guard.calculate, left.sound.1, right.sound.1, here, there]

/-! ## Single rules in a batch -/

/-- What the guard's verdict on a rule says about the profile of a filter with that rule. -/
structure Mirrored (settings : Settings) (source : Rule.Source) (profile : Profile)
    (verdict : Except Rule.Failure Bool) : Prop where
  error_eq_none_iff : profile.error = none ↔ ∃ b, verdict = .ok b
  matched_eq : ∀ b, verdict = .ok b → profile.matched = b
  malformed : ∀ f, source.parse = .error f →
    verdict = .error (.finding f) ∧ profile = ⟨0, false, some (f.report source)⟩
  failed : ∀ rule f, source.parse = .ok rule → verdict = .error f →
    profile.error = some (f.report source) ∧
      (profile.matched = true ↔ f.isVisible = true ∧ settings.failurePolicy = .asMatch)

theorem mirrored_of_malformed {source : Rule.Source} {start : Batch.Shared} {f : Rule.Finding}
    (parsed : source.parse = .error f) :
    Mirrored settings source (Batch.profileOf settings source start (.malformed f, start))
      (.error (.finding f)) := by
  have unconsumed : start.budget.consumed - start.budget.consumed = 0 := Nat.sub_self _
  constructor
  · exact iff_of_false nofun nofun
  · nofun
  · intro found same
    cases parsed.symm.trans same
    exact ⟨rfl, congrArg (fun n => (⟨n, false, some (f.report source)⟩ : Profile)) unconsumed⟩
  · intro rule failure same
    cases parsed.symm.trans same

theorem mirrored_of_parsed {source : Rule.Source} {start finish : Batch.Shared} {rule : Rule}
    (parsed : source.parse = .ok rule) (verdict : Except Rule.Failure Bool) :
    Mirrored settings source
      (Batch.profileOf settings source start (.ofResult verdict, finish)) verdict := by
  constructor
  · cases verdict with
    | ok b => exact iff_of_true rfl ⟨b, rfl⟩
    | error f => exact iff_of_false nofun nofun
  · rintro b rfl
    rfl
  · intro f same
    cases parsed.symm.trans same
  · rintro _ f - rfl
    refine ⟨rfl, ?_⟩
    have matched : (Batch.profileOf settings source start (.ofResult (.error f), finish)).matched =
      (f.isVisible && settings.failurePolicy == .asMatch) := rfl
    rw [matched, Bool.and_eq_true, beq_iff_eq]

/-- A rule that can be read is evaluated by a guard in use as it is at first in a batch. -/
theorem Reached.matchesAction_of_parsed (reached : Reached settings g) (host : Host)
    {text : String} {rule : Rule} (parsed : (filterSource text).parse = .ok rule)
    (memory : Memory) :
    let first := (Rule.matchesAction host rule).run.run (Batch.Shared.first settings memory).start
    (g.matchesAction host text memory).1 = first.1 ∧
      (g.matchesAction host text memory).2.2 = first.2.memory := by
  have new : (ofSettings settings).matchesAction host text memory = _ :=
    evaluate_of_parsed parsed _ _ _
  have same := reached.matchesAction_eq .new host text memory
  rw [new] at same
  exact same

/-- However a guard was used before, it judges a rule as a batch of one filter with that rule
does: the two leave the same memory, the filter has no error if and only if the guard has a
verdict, which is then whether the filter matches, and what goes wrong with one of them goes
wrong with the other.  Nothing that can be asked of the guard depends on how it was used
before. -/
theorem matchesAction_mirrored (untimed : settings.runtimeLimitMs = none)
    (reached : Reached settings g) (host : Host) (clock : Clock) (number : Nat) (text : String)
    (memory : Memory) (tags : Tags) :
    let filter := Filter.ofRules number text
    let ran := Batch.run settings host clock [filter] ⟨memory, tags, none⟩
    let tried := g.matchesAction host text memory
    ran.2.memory = tried.2.2 ∧
      (ran.1.exhausted = true ↔
        ∃ limit, tried.1 = .error (.fault (.overrun (.conditions limit)))) ∧
      (∃ profile, ran.1.profiles.find? ⟨false, number⟩ = some profile ∧
        ran.1.matched = (if profile.matched then [⟨false, number⟩] else []) ∧
        Mirrored settings (Batch.sourceOf ⟨false, number⟩ filter) profile tried.1) ∧
      ∀ h, Reached settings h →
        (h.matchesAction host text memory).1 = tried.1 ∧
          (h.matchesAction host text memory).2.2 = tried.2.2 ∧
          ∀ timestamp expression,
            (h.calculate timestamp expression).1 = (g.calculate timestamp expression).1 := by
  intro filter ran tried
  have isRunnable : filter.isRunnable = true := rfl
  have named : filter.id = some ⟨false, number⟩ := rfl
  obtain ⟨matched, profiled, exhausted, left⟩ :=
    Batch.run_singleton (s := ⟨memory, tags, none⟩) untimed host clock rfl isRunnable named
  have unobservable (h : Guard) (other : Reached settings h) :
      (h.matchesAction host text memory).1 = tried.1 ∧
        (h.matchesAction host text memory).2.2 = tried.2.2 ∧
        ∀ timestamp expression,
          (h.calculate timestamp expression).1 = (g.calculate timestamp expression).1 :=
    ⟨(other.matchesAction_eq reached host text memory).1,
      (other.matchesAction_eq reached host text memory).2, other.calculate_eq reached⟩
  -- The name of a rule plays no part when it is read.
  cases parsed : (Batch.sourceOf ⟨false, number⟩ filter).parse with
  | error f =>
      have alone : Batch.evaluate host _ (Batch.Shared.first settings memory) = _ :=
        Batch.evaluate_of_malformed parsed
      have parsedHere : (filterSource text).parse = .error f := parsed
      have same : tried = (.error (.finding f), g, memory) :=
        evaluate_of_malformed parsedHere _ _ _
      simp only [alone] at matched profiled exhausted left
      rw [same] at unobservable ⊢
      exact ⟨left, iff_of_false (by rw [exhausted]; nofun) nofun,
        ⟨_, profiled, matched, mirrored_of_malformed parsed⟩, unobservable⟩
  | ok rule =>
      have alone : Batch.evaluate host _ (Batch.Shared.first settings memory) = _ :=
        Batch.evaluate_of_parsed parsed
      obtain ⟨verdict, memoryAfter⟩ := reached.matchesAction_of_parsed host parsed memory
      simp only [alone, ← verdict] at matched profiled exhausted left
      refine ⟨left.trans memoryAfter.symm, ?_,
        ⟨_, profiled, matched, mirrored_of_parsed parsed tried.1⟩, unobservable⟩
      rw [exhausted, Batch.endsBatch_iff]
      exact exists_congr fun limit => Batch.ofResult_eq_failed_iff

/-- A guard that keeps one pattern has tried a rule with another one and calculated an
expression with a third; a rule that is malformed at the second of two conditions is judged
by it as in a batch. -/
theorem matchesAction_mirrored_onePattern :
    let settings : Settings := { patternCapacity := 1 }
    let memory : Memory := ⟨.empty, []⟩
    let g := (((ofSettings settings).matchesAction .none "'a' rlike 'b'" memory).2.1.calculate
      "0" "'a' irlike 'A'").2
    let text := "'a' rlike 'a' & 'a' rlike '('"
    settings.runtimeLimitMs = none ∧ Reached settings g ∧
      ∃ profile, (Batch.run settings .none id [Filter.ofRules 1 text]
          ⟨memory, .empty, none⟩).1.profiles.find? ⟨false, 1⟩ = some profile ∧
        Mirrored settings (Batch.sourceOf ⟨false, 1⟩ (Filter.ofRules 1 text)) profile
          (g.matchesAction .none text memory).1 := by
  intro settings memory g text
  have reached : Reached settings g := .calculate (.matchesAction .new _ _ _) _ _
  obtain ⟨-, -, ⟨profile, profiled, -, mirrored⟩, -⟩ :=
    matchesAction_mirrored rfl reached .none id 1 text memory .empty
  exact ⟨rfl, reached, profile, profiled, mirrored⟩

end Guard

end EditGuard
