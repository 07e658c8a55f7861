import EditGuard.Proofs.Consequence.Blocks
import EditGuard.Proofs.Consequence.Building

/-!
# The consequences of several filters

The filters are asked one after the other.  What is left of the consequences of one
depends on its own actions and on what the platform answers; no filter suppresses
consequences of another one.
-/

namespace EditGuard.Execution

open Consequence (answerAt afterAsking left answered Engages)

variable {σ : Type}

/-! ## The consequences that are built -/

/-- The consequences of the actions of a filter that count and can be built. -/
def builtFor (settings : Settings) (source : FilterSource) (action : Action) (f : Filter) :
    List Consequence :=
  match f.id, f.loadActions source with
  | some id, .ok actions => buildAll (effectiveActions settings id actions) ⟨id, f.name, action⟩
  | _, _ => []

section

variable {settings : Settings} {source : FilterSource} {action : Action} {f : Filter}

theorem ofFilter_eq (p : Platform σ) (settings : Settings) (source : FilterSource)
    (action : Action) (f : Filter) :
    ofFilter p settings source action f =
      askAll p settings [] (builtFor settings source action f) := by
  unfold ofFilter builtFor
  cases f.id with
  | none => rfl
  | some id =>
      cases f.loadActions source with
      | ok actions => rfl
      | error fault => rfl

/-- Only a filter with an identity has consequences. -/
theorem builtFor_cases (settings : Settings) (source : FilterSource) (action : Action)
    (f : Filter) :
    builtFor settings source action f = [] ∨ ∃ id actions, f.id = some id ∧
      builtFor settings source action f = buildAll actions ⟨id, f.name, action⟩ := by
  unfold builtFor
  split
  · rename_i id actions isId _
    exact .inr ⟨id, _, isId, rfl⟩
  · exact .inl rfl

/-- The consequences of a filter concern it and were not asked yet. -/
theorem mem_builtFor {c : Consequence} (mem : c ∈ builtFor settings source action f) :
    ∃ id, f.id = some id ∧ c.subject = ⟨id, f.name, action⟩ ∧ c.suppresses = none := by
  rcases builtFor_cases settings source action f with nothing | ⟨id, actions, isId, built⟩
  · rw [nothing] at mem
    cases mem
  · rw [built] at mem
    obtain ⟨subject, suppresses⟩ := mem_buildAll mem
    exact ⟨id, isId, subject, suppresses⟩

theorem filter_of_mem_builtFor {c : Consequence} (mem : c ∈ builtFor settings source action f) :
    f.id = some c.subject.filter := by
  obtain ⟨id, isId, subject, _⟩ := mem_builtFor mem
  rw [subject]
  exact isId

/-- A consequence of a filter is of the kind that its name stands for. -/
theorem kind_of_mem_builtFor {c : Consequence} (mem : c ∈ builtFor settings source action f) :
    c.kind = .ofName c.name := by
  rcases builtFor_cases settings source action f with nothing | ⟨id, actions, isId, built⟩
  · rw [nothing] at mem
    cases mem
  · rw [built] at mem
    obtain ⟨params, -, built⟩ := exists_of_mem_buildAll mem
    exact Consequence.kind_of_build built

theorem ordered_builtFor (settings : Settings) (source : FilterSource) (action : Action)
    (f : Filter) :
    (builtFor settings source action f).Pairwise fun c d => c.priority ≤ d.priority := by
  rcases builtFor_cases settings source action f with nothing | ⟨id, actions, _, built⟩
  · rw [nothing]
    exact .nil
  · rw [built]
    exact ordered_buildAll actions _

theorem nodup_names_builtFor (settings : Settings) (source : FilterSource) (action : Action)
    (f : Filter) : ((builtFor settings source action f).map Consequence.name).Nodup := by
  rcases builtFor_cases settings source action f with nothing | ⟨id, actions, _, built⟩
  · rw [nothing]
    exact .nil
  · rw [built]
    exact nodup_names_buildAll actions _

theorem exists_arranged_builtFor (settings : Settings) (source : FilterSource) (action : Action)
    (f : Filter) : ∃ throttle? warn? others, Arranged throttle? warn? others ∧
      builtFor settings source action f = arrange throttle? warn? others := by
  rcases builtFor_cases settings source action f with nothing | ⟨id, actions, _, built⟩
  · refine ⟨none, none, [], ⟨?_, ?_, ?_⟩, nothing⟩
    · rintro c ⟨⟩
    · rintro c ⟨⟩
    · intro c mem
      cases mem
  · rw [built]
    exact exists_arranged actions _

end

/-! ## Asking them -/

theorem askAll_questioned (p : Platform σ) (settings : Settings) (kept cs : List Consequence)
    (scene : Scene σ) : Questioned p scene ((askAll p settings kept cs).run scene).2 := by
  induction cs generalizing kept scene with
  | nil => exact .none
  | cons c cs ih =>
      have asked := Consequence.afterAsking_questioned p settings scene c
      rw [run_askAll_cons]
      split
      · split
        · exact asked
        · exact asked.trans (ih _ _)
        · exact asked.trans (ih _ _)
      · exact ih _ scene

/-- The others are asked unless the first one suppresses them. -/
theorem askAll_cons_records {p : Platform σ} {settings : Settings}
    {c : Consequence} {cs : List Consequence} {scene : Scene σ} {allowed : PlatformCall → Prop}
    (may : ∀ call, c.MayAsk call → allowed call) (kept : List Consequence)
    (rest : c.answerAt p settings scene ≠ some true → ∀ kept,
      Records (c.afterAsking p settings scene) allowed (askAll p settings kept cs)
        (askAll p.recorded settings kept cs)) :
    Records scene allowed (askAll p settings kept (c :: cs))
      (askAll p.recorded settings kept (c :: cs)) := by
  rw [askAll, askAll]
  cases isDisabler : c.kind.isDisabler with
  | false =>
      have nothingAsked : c.afterAsking p settings scene = scene ∧
          c.answerAt p settings scene = some false := by
        rcases c with ⟨subject, measure, suppresses⟩
        cases measure with
        | throttle t => cases isDisabler
        | warn message => cases isDisabler
        | _ => exact ⟨rfl, rfl⟩
      obtain ⟨sameScene, plain⟩ := nothingAsked
      rw [plain, sameScene] at rest
      exact rest (fun same => by cases same) (kept ++ [c])
  | true =>
      have asks : Records scene allowed (c.precheck p settings).run
          (c.precheck p.recorded settings).run := by
        refine .operation ((Consequence.asksToSuppress_records p settings scene c).mono may) ?_
        intro answer _
        exact .pure _
      refine .bind asks ?_
      rw [Consequence.run_precheck]
      simp only [answerAt, afterAsking] at rest
      generalize (c.asksToSuppress p settings).run.run scene = result at rest ⊢
      rcases result with ⟨outcome, t⟩
      cases outcome with
      | error f => exact rest (fun same => by cases same) kept
      | ok answer =>
          cases answer with
          | true => exact .pure _
          | false => exact rest (fun same => by cases same) _

theorem askAll_records {p : Platform σ} {settings : Settings} {cs : List Consequence}
    {allowed : PlatformCall → Prop} (may : ∀ c ∈ cs, ∀ call, c.MayAsk call → allowed call)
    (kept : List Consequence) (scene : Scene σ) :
    Records scene allowed (askAll p settings kept cs) (askAll p.recorded settings kept cs) := by
  induction cs generalizing kept scene with
  | nil => exact .pure kept
  | cons c cs ih =>
      apply askAll_cons_records (may c List.mem_cons_self) kept
      intro _ kept
      exact ih (fun d mem => may d (List.mem_cons_of_mem _ mem)) kept _

/-! ## What is left of one filter -/

/-- The answers are those of the platform after some questions. -/
def GivenBy (p : Platform σ) (settings : Settings) (scene : Scene σ)
    (answer : Consequence → Option Bool) (built : List Consequence) : Prop :=
  ∀ c ∈ built, ∃ during, Questioned p scene during ∧ answer c = c.answerAt p settings during

/-- The consequences of a filter that are left, with their answers. -/
def remaining (answer : Consequence → Option Bool) (built : List Consequence) :
    List Consequence :=
  (left answer built).map (answered answer)

/-- The calls by which the consequences of a filter are asked.  A warning is not asked if
the throttle is engaged. -/
def MayAskAbout (answer : Consequence → Option Bool) (built : List Consequence)
    (call : PlatformCall) : Prop :=
  ∃ c ∈ built, c.MayAsk call ∧ (c.kind = .warn → ¬ ∃ t ∈ built, Engages answer t)

theorem askAll_arranged (p : Platform σ) (settings : Settings) (scene : Scene σ)
    {throttle? warn? : Option Consequence} {others : List Consequence}
    (arranged : Arranged throttle? warn? others) :
    ∃ answer, GivenBy p settings scene answer (arrange throttle? warn? others) ∧
      ((askAll p settings [] (arrange throttle? warn? others)).run scene).1 =
        remaining answer (arrange throttle? warn? others) ∧
      Records scene (MayAskAbout answer (arrange throttle? warn? others))
        (askAll p settings [] (arrange throttle? warn? others))
        (askAll p.recorded settings [] (arrange throttle? warn? others)) := by
  refine ⟨answers p settings scene throttle?, ?_, run_askAll_arranged p settings scene arranged, ?_⟩
  · intro c _
    unfold answers
    split
    · exact ⟨scene, .none, rfl⟩
    · refine ⟨_, ?_, rfl⟩
      cases throttle? with
      | none => exact .none
      | some t => exact Consequence.afterAsking_questioned p settings scene t
  · by_cases engages : ∃ t ∈ arrange throttle? warn? others,
        Engages (answers p settings scene throttle?) t
    · obtain ⟨t, mem, isThrottle, engaged⟩ := engages
      cases arranged.mem_throttle mem isThrottle
      rw [answers, if_pos isThrottle] at engaged
      refine askAll_cons_records ?_ [] ?_
      · intro call asks
        refine ⟨t, List.mem_cons_self, asks, fun isWarn => ?_⟩
        rw [isThrottle] at isWarn
        cases isWarn
      · intro notEngaged
        exact absurd engaged notEngaged
    · exact askAll_records (fun c mem call asks => ⟨c, mem, asks, fun _ => engages⟩) [] scene

section

variable {p : Platform σ} {settings : Settings} {scene : Scene σ}
  {answer first second : Consequence → Option Bool} {built : List Consequence}

theorem GivenBy.of_questioned {later : Scene σ} (given : GivenBy p settings later answer built)
    (questioned : Questioned p scene later) : GivenBy p settings scene answer built := by
  intro c mem
  obtain ⟨during, reached, answers⟩ := given c mem
  exact ⟨during, questioned.trans reached, answers⟩

/-- If questions change nothing, then all are asked in the same scene. -/
theorem GivenBy.of_readsOnly (given : GivenBy p settings scene answer built)
    (readsOnly : p.ReadsOnly) {c : Consequence} (mem : c ∈ built) :
    answer c = c.answerAt p settings scene := by
  obtain ⟨during, reached, answers⟩ := given c mem
  rw [answers, reached.eq_of_readsOnly readsOnly]

theorem GivenBy.congr (given : GivenBy p settings scene first built)
    (same : ∀ c ∈ built, first c = second c) : GivenBy p settings scene second built := by
  intro c mem
  rw [← same c mem]
  exact given c mem

theorem remaining_congr (same : ∀ c ∈ built, first c = second c) :
    remaining first built = remaining second built := by
  rw [remaining, remaining, Consequence.left_congr same]
  refine List.map_congr_left fun c mem => ?_
  rw [answered, answered, same c ((Consequence.left_sublist second built).subset mem)]

theorem MayAskAbout.congr {call : PlatformCall} (may : MayAskAbout first built call)
    (same : ∀ c ∈ built, first c = second c) : MayAskAbout second built call := by
  obtain ⟨c, mem, asks, disengaged⟩ := may
  refine ⟨c, mem, asks, fun isWarn => ?_⟩
  rintro ⟨t, inside, isThrottle, engaged⟩
  refine disengaged isWarn ⟨t, inside, isThrottle, ?_⟩
  rw [same t inside]
  exact engaged

theorem answered_subject (answer : Consequence → Option Bool) (c : Consequence) :
    (answered answer c).subject = c.subject ∧ (answered answer c).measure = c.measure := by
  unfold answered
  split
  · exact ⟨rfl, rfl⟩
  · exact ⟨rfl, rfl⟩

theorem kind_answered (answer : Consequence → Option Bool) (c : Consequence) :
    (answered answer c).kind = c.kind := by
  rw [Consequence.kind, Consequence.kind, (answered_subject answer c).2]

theorem mem_remaining {c : Consequence} (mem : c ∈ remaining answer built) :
    ∃ d ∈ built, d.subject = c.subject ∧ d.measure = c.measure := by
  obtain ⟨d, inside, rfl⟩ := List.mem_map.mp mem
  obtain ⟨subject, measure⟩ := answered_subject answer d
  exact ⟨d, (Consequence.left_sublist answer built).subset inside, subject.symm, measure.symm⟩

theorem pairwise_remaining {r : Consequence → Consequence → Prop}
    (stable : ∀ c d, r c d → r (answered answer c) (answered answer d))
    (ordered : built.Pairwise r) : (remaining answer built).Pairwise r := by
  rw [remaining, List.pairwise_map]
  exact (ordered.sublist (Consequence.left_sublist answer built)).imp (stable _ _)

end

/-! ## What is left of all filters -/

section

variable (settings : Settings) (source : FilterSource) (action : Action)

/-- What is left of the consequences of filters. -/
def survivors (answer : Consequence → Option Bool) (fs : List Filter) : List Consequence :=
  fs.flatMap fun f => remaining answer (builtFor settings source action f)

theorem survivors_cons (answer : Consequence → Option Bool) (f : Filter) (fs : List Filter) :
    survivors settings source action answer (f :: fs) =
      remaining answer (builtFor settings source action f) ++
        survivors settings source action answer fs :=
  List.flatMap_cons

theorem survivors_congr {first second : Consequence → Option Bool} {fs : List Filter}
    (same : ∀ f ∈ fs, ∀ c ∈ builtFor settings source action f, first c = second c) :
    survivors settings source action first fs = survivors settings source action second fs := by
  unfold survivors
  rw [List.flatMap_def, List.flatMap_def,
    List.map_congr_left fun f mem => remaining_congr (same f mem)]

/-- How filters are asked from a scene on, with these answers. -/
structure Asked (p : Platform σ) (fs : List Filter) (scene : Scene σ)
    (answer : Consequence → Option Bool) : Prop where
  given : ∀ f ∈ fs, GivenBy p settings scene answer (builtFor settings source action f)
  leaves : ((ofFilters p settings source action fs).run scene).1 =
    survivors settings source action answer fs
  reaches : Questioned p scene ((ofFilters p settings source action fs).run scene).2
  records : Records scene
    (fun call => ∃ f ∈ fs, MayAskAbout answer (builtFor settings source action f) call)
    (ofFilters p settings source action fs) (ofFilters p.recorded settings source action fs)

theorem exists_asked_one (p : Platform σ) (f : Filter) (scene : Scene σ) :
    ∃ answer, GivenBy p settings scene answer (builtFor settings source action f) ∧
      ((ofFilter p settings source action f).run scene).1 =
        remaining answer (builtFor settings source action f) ∧
      Records scene (MayAskAbout answer (builtFor settings source action f))
        (ofFilter p settings source action f) (ofFilter p.recorded settings source action f) := by
  obtain ⟨throttle?, warn?, others, arranged, built⟩ :=
    exists_arranged_builtFor settings source action f
  rw [ofFilter_eq, ofFilter_eq, built]
  exact askAll_arranged p settings scene arranged

/-- The answers of all filters, each of which has its own. -/
theorem exists_asked (p : Platform σ) {fs : List Filter}
    (distinct : (fs.filterMap Filter.id).Nodup) (scene : Scene σ) :
    ∃ answer, Asked settings source action p fs scene answer := by
  induction fs generalizing scene with
  | nil =>
      refine ⟨fun _ => none, ?_, rfl, .none, .pure []⟩
      intro f mem
      cases mem
  | cons f fs ih =>
      rw [List.Nodup, List.pairwise_filterMap] at distinct
      obtain ⟨others, distinct⟩ := List.pairwise_cons.mp distinct
      obtain ⟨one, givenOne, leavesOne, recordsOne⟩ :=
        exists_asked_one settings source action p f scene
      have reachesOne : Questioned p scene ((ofFilter p settings source action f).run scene).2 := by
        rw [ofFilter_eq]
        exact askAll_questioned p settings [] _ scene
      obtain ⟨rest, askedRest⟩ := ih (List.pairwise_filterMap.mpr distinct)
        ((ofFilter p settings source action f).run scene).2
      -- a consequence tells by its filter which of the answers are about it
      let answer : Consequence → Option Bool :=
        fun c => if f.id = some c.subject.filter then one c else rest c
      have ofOne : ∀ c ∈ builtFor settings source action f, one c = answer c := fun c mem =>
        (if_pos (filter_of_mem_builtFor mem)).symm
      have ofRest : ∀ g ∈ fs, ∀ c ∈ builtFor settings source action g, rest c = answer c := by
        intro g mem c inside
        refine (if_neg fun same => ?_).symm
        exact others g mem _ same _ (filter_of_mem_builtFor inside) rfl
      refine ⟨answer, ?_, ?_, ?_, ?_⟩
      · intro g mem
        rcases List.mem_cons.mp mem with rfl | mem
        · exact givenOne.congr ofOne
        · exact ((askedRest.given g mem).of_questioned reachesOne).congr (ofRest g mem)
      · rw [survivors_cons, ← remaining_congr ofOne,
          ← survivors_congr settings source action ofRest, ← leavesOne, ← askedRest.leaves]
        rfl
      · exact reachesOne.trans askedRest.reaches
      · refine .bind (recordsOne.mono ?_) (.bind (askedRest.records.mono ?_) (.pure _))
        · intro call may
          exact ⟨f, List.mem_cons_self, may.congr ofOne⟩
        · rintro call ⟨g, mem, may⟩
          exact ⟨g, List.mem_cons_of_mem _ mem, may.congr (ofRest g mem)⟩

end

section

variable {settings : Settings} {source : FilterSource} {action : Action}
  {answer : Consequence → Option Bool} {fs : List Filter} {f : Filter} {c : Consequence}

theorem subject_of_mem_remaining
    (mem : c ∈ remaining answer (builtFor settings source action f)) :
    ∃ id, f.id = some id ∧ c.subject = ⟨id, f.name, action⟩ := by
  obtain ⟨d, inside, subject, _⟩ := mem_remaining mem
  obtain ⟨id, isId, built, _⟩ := mem_builtFor inside
  refine ⟨id, isId, ?_⟩
  rw [← subject]
  exact built

theorem filter_of_mem_remaining
    (mem : c ∈ remaining answer (builtFor settings source action f)) :
    f.id = some c.subject.filter := by
  obtain ⟨id, isId, subject⟩ := subject_of_mem_remaining mem
  rw [subject]
  exact isId

/-- A consequence that may suppress others is left only with the answer that it gave. -/
theorem isSome_of_mem_remaining
    (mem : c ∈ remaining answer (builtFor settings source action f))
    (isDisabler : c.kind.isDisabler = true) : c.suppresses.isSome := by
  obtain ⟨d, inside, rfl⟩ := List.mem_map.mp mem
  rw [kind_answered] at isDisabler
  obtain ⟨throttle?, warn?, others, arranged, built⟩ :=
    exists_arranged_builtFor settings source action f
  rw [built] at inside
  have single : ∀ e ∈ arrange throttle? warn? others, e.kind = .throttle →
      d.kind = .throttle → e = d := by
    intro e mem isThrottle isThrottle'
    have first : throttle? = some e := arranged.mem_throttle mem isThrottle
    have second : throttle? = some d :=
      arranged.mem_throttle ((Consequence.left_sublist answer _).subset inside) isThrottle'
    exact Option.some.inj (first.symm.trans second)
  have answers := Consequence.isSome_of_mem_left single inside isDisabler
  rw [answered, if_pos isDisabler]
  exact answers

theorem exists_of_mem_survivors (mem : c ∈ survivors settings source action answer fs) :
    ∃ f ∈ fs, c ∈ remaining answer (builtFor settings source action f) :=
  List.mem_flatMap.mp mem

/-- What is left of one filter is not changed by the others. -/
theorem filter_survivors (distinct : (fs.filterMap Filter.id).Nodup) {id : FilterId}
    (mem : f ∈ fs) (isId : f.id = some id) :
    (survivors settings source action answer fs).filter (·.subject.filter == id) =
      remaining answer (builtFor settings source action f) := by
  have own : ∀ {g : Filter}, g.id = some id →
      (remaining answer (builtFor settings source action g)).filter (·.subject.filter == id) =
        remaining answer (builtFor settings source action g) := by
    intro g isId
    rw [List.filter_eq_self]
    intro c inside
    have same := filter_of_mem_remaining inside
    rw [isId] at same
    exact beq_iff_eq.mpr (Option.some.inj same).symm
  have other : ∀ {g : Filter}, g.id ≠ some id →
      (remaining answer (builtFor settings source action g)).filter (·.subject.filter == id) =
        [] := by
    intro g different
    rw [List.filter_eq_nil_iff]
    intro c inside same
    have ofOther := filter_of_mem_remaining inside
    rw [beq_iff_eq.mp same] at ofOther
    exact different ofOther
  rw [List.Nodup, List.pairwise_filterMap] at distinct
  induction fs with
  | nil => cases mem
  | cons g gs ih =>
      obtain ⟨others, distinct⟩ := List.pairwise_cons.mp distinct
      rw [survivors_cons, List.filter_append]
      rcases List.mem_cons.mp mem with rfl | mem
      · have nothing : (survivors settings source action answer gs).filter
            (·.subject.filter == id) = [] := by
          rw [List.filter_eq_nil_iff]
          intro c inside same
          obtain ⟨g, mem, ofOther⟩ := exists_of_mem_survivors inside
          have isOther := filter_of_mem_remaining ofOther
          rw [beq_iff_eq.mp same] at isOther
          exact others g mem id isId id isOther rfl
        rw [own isId, nothing, List.append_nil]
      · have different : g.id ≠ some id := fun same => others f mem id same id isId rfl
        rw [other different, List.nil_append]
        exact ih distinct mem

theorem label_answered (answer : Consequence → Option Bool) (c : Consequence) :
    (answered answer c).label = c.label := by
  obtain ⟨subject, measure⟩ := answered_subject answer c
  rw [Consequence.label, Consequence.label, Consequence.name, Consequence.name, subject, measure]

/-- No two consequences that are left have the same filter and the same name. -/
theorem nodup_survivors (distinct : (fs.filterMap Filter.id).Nodup) :
    ((survivors settings source action answer fs).map Consequence.label).Nodup := by
  rw [List.Nodup, List.pairwise_map, survivors, List.pairwise_flatMap]
  constructor
  · intro f _
    refine pairwise_remaining ?_ ?_
    · intro c d different
      rw [label_answered, label_answered]
      exact different
    · have names := nodup_names_builtFor settings source action f
      rw [List.Nodup, List.pairwise_map] at names
      exact names.imp fun different same => different (congrArg Prod.snd same)
  · rw [List.Nodup, List.pairwise_filterMap] at distinct
    apply distinct.imp
    intro f g different c ofFirst d ofSecond same
    exact different _ (filter_of_mem_remaining ofFirst) _ (filter_of_mem_remaining ofSecond)
      (congrArg Prod.fst same)

/-- At most one block is left of each filter. -/
theorem singleBlocks_survivors (distinct : (fs.filterMap Filter.id).Nodup) :
    SingleBlocks (survivors settings source action answer fs) := by
  have labels : ((survivors settings source action answer fs).map Consequence.label).Nodup :=
    nodup_survivors distinct
  rw [List.Nodup, List.pairwise_map] at labels
  apply labels.imp
  intro c d different key isKey other isOther sameFilter
  have first : c.name = "block" := Consequence.name_of_kind ((isBlock_iff c).mpr ⟨key, isKey⟩)
  have second : d.name = "block" := Consequence.name_of_kind ((isBlock_iff d).mpr ⟨other, isOther⟩)
  obtain ⟨_, _, rfl⟩ := Option.map_eq_some_iff.mp isKey
  obtain ⟨_, _, rfl⟩ := Option.map_eq_some_iff.mp isOther
  exact different (Prod.ext sameFilter (first.trans second.symm))

end

end EditGuard.Execution
