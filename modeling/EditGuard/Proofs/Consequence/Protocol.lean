import EditGuard.Consequence.Ledger
import EditGuard.Proofs.Consequence.Carrying
import EditGuard.Proofs.Consequence.Survivors
import EditGuard.Proofs.FilterId

/-!
# The protocol of suppression

All consequences of the filters that matched are asked before any is carried out.
What is carried out for a filter depends on its own consequences and their answers;
only of the blocks of all filters the longest is chosen.
-/

namespace EditGuard

variable {σ : Type}

/-! ## The flags of warnings -/

/-- The warnings of different filters about a page have different flags. -/
theorem Consequence.warnedKey_inj {s t : Subject} (samePage : s.action.page = t.action.page)
    (same : warnedKey s = warnedKey t) : s.filter = t.filter := by
  unfold warnedKey at same
  rw [samePage] at same
  exact FilterId.text_inj ((String.append_right_inj _).mp same)

/-- Questions do not change a ledger. -/
theorem Ledger.readsOnly_platform : Ledger.platform.ReadsOnly :=
  ⟨fun _ _ => rfl, fun _ _ => rfl⟩

namespace Execution

open Consequence (warnedKey Engages)

/-! ## The two phases -/

theorem eq_of_id {fs : List Filter} (distinct : (fs.filterMap Filter.id).Nodup) {f g : Filter}
    {id : FilterId} (first : f ∈ fs) (second : g ∈ fs) (firstId : f.id = some id)
    (secondId : g.id = some id) : f = g := by
  induction fs with
  | nil => cases first
  | cons h hs ih =>
      rw [List.Nodup, List.pairwise_filterMap] at distinct
      obtain ⟨others, distinct⟩ := List.pairwise_cons.mp distinct
      cases first with
      | head =>
          cases second with
          | head => rfl
          | tail _ second => exact absurd rfl (others g second id firstId id secondId)
      | tail _ first =>
          cases second with
          | head => exact absurd rfl (others f first id secondId id firstId)
          | tail _ second => exact ih (List.pairwise_filterMap.mpr distinct) first second

/-- Filters with distinct identities are found by them. -/
theorem find?_id_eq_some_iff {fs : List Filter} (distinct : (fs.filterMap Filter.id).Nodup)
    {f : Filter} {id : FilterId} :
    fs.find? (·.id == some id) = some f ↔ f ∈ fs ∧ f.id = some id := by
  constructor
  · intro found
    have sameId := List.find?_some found
    exact ⟨List.mem_of_find?_eq_some found, beq_iff_eq.mp sameId⟩
  · rintro ⟨mem, isId⟩
    cases found : fs.find? (·.id == some id) with
    | none =>
        have noneFound := List.find?_eq_none.mp found f mem
        rw [isId] at noneFound
        exact absurd (beq_self_eq_true _) noneFound
    | some g =>
        have sameId := List.find?_some found
        rw [eq_of_id distinct (List.mem_of_find?_eq_some found) mem (beq_iff_eq.mp sameId) isId]

/-- The second phase: consequences are carried out one after the other, and then the hits
are logged. -/
def conclude (p : Platform σ) (settings : Settings) (action : Action) (matched : List Filter)
    (dump : Option String) (cs : List Consequence) : StateM (Scene σ) ExecutionResult := do
  let r ← carryOutAll p settings .nothing cs
  logHits p action dump r matched
  return r

theorem run_eq (p : Platform σ) (settings : Settings) (source : FilterSource) (action : Action)
    (matched : List Filter) (dump : Option String) :
    run p settings source action matched dump =
      pending p settings source action matched >>=
        conclude p settings action matched dump :=
  rfl

theorem conclude_records (p : Platform σ) (settings : Settings) (action : Action)
    (matched : List Filter) (dump : Option String) (cs : List Consequence) (scene : Scene σ) :
    Records scene
      (fun call => (∃ c ∈ cs, c.MayDo call) ∨ call.isQuestion = false ∧ call.flag? = none)
      (conclude p settings action matched dump cs)
      (conclude p.recorded settings action matched dump cs) := by
  refine .bind ((carryOutAll_records p settings .nothing cs scene).mono ?_) ?_
  · exact fun _ may => .inl may
  · refine .bind ((logHits_records p action dump _ matched _).mono ?_) (.pure _)
    exact fun _ may => .inr may

/-- An engaged throttle is the only consequence of its filter that remains. -/
theorem isThrottle_of_engages {answer : Consequence → Option Bool} {built : List Consequence}
    (engages : ∃ t ∈ built, Engages answer t) {c : Consequence}
    (mem : c ∈ remaining answer built) : c.kind = .throttle := by
  obtain ⟨d, inside, rfl⟩ := List.mem_map.mp mem
  rw [Consequence.left, if_pos engages] at inside
  rw [kind_answered]
  exact beq_iff_eq.mp (List.mem_filter.mp inside).2

section

variable (p : Platform σ) (settings : Settings) (source : FilterSource) (action : Action)
  (matched : List Filter) (dump : Option String) (scene : Scene σ)

/-- How the consequences of filters are carried out from a scene on: by the answers that
they give, which of them are executed, and which questions are put to the platform before
its other operations have their effects. -/
structure Protocol (answer : Consequence → Option Bool) (executed : List Consequence)
    (questions effects : List PlatformCall) : Prop where
  /-- The answers are given when nothing but questions was put to the platform. -/
  given : ∀ f ∈ matched, GivenBy p settings scene answer (builtFor settings source action f)
  /-- If questions change nothing, then these are the answers in the scene before. -/
  before : p.ReadsOnly → ∀ f ∈ matched, ∀ c ∈ builtFor settings source action f,
    answer c = c.answerAt p settings scene
  /-- After the questions, what is executed is carried out in order. -/
  phases : ∃ asked, Questioned p scene asked ∧
    (run p settings source action matched dump).run scene =
      (conclude p settings action matched dump executed).run asked
  /-- The platform records the questions, and then the effects. -/
  record : (run p.recorded settings source action matched dump).run (scene.withRecord []) =
    (((run p settings source action matched dump).run scene).1,
      ((run p settings source action matched dump).run scene).2.withRecord (questions ++ effects))
  asks : ∀ call ∈ questions, call.isQuestion = true
  acts : ∀ call ∈ effects, call.isQuestion = false
  /-- For each filter those of its consequences are executed that remain after its own
  answers, save for a block that is not the longest. -/
  own : ∀ f ∈ matched, ∀ id ∈ f.id, executed.filter (·.subject.filter == id) =
    (remaining answer (builtFor settings source action f)).filter
      (IsPlaced (survivors settings source action answer matched) ·)
  /-- Nothing else is executed. -/
  nothingElse : ∀ c ∈ executed, ∃ f ∈ matched, f.id = some c.subject.filter
  ordered : executed.Pairwise NotAfter
  /-- The flag of a warning that is suppressed by a throttle is neither read nor changed. -/
  untouched : ∀ f ∈ matched, ∀ id ∈ f.id,
    (∃ t ∈ builtFor settings source action f, Engages answer t) →
      ∀ call ∈ questions ++ effects, call.flag? ≠ some (warnedKey ⟨id, f.name, action⟩)
  /-- What may suppress others was asked before it is executed. -/
  asked : ∀ c ∈ executed, c.kind.isDisabler = true → c.suppresses.isSome
  /-- Consequences fail only as the platform does. -/
  failures : ∀ failure ∈ ((run p settings source action matched dump).run scene).1.failures,
    IsFailureOf p executed failure
  /-- No consequence fails for the reason that it was not asked. -/
  neverUnasked : ∀ name,
    (∀ f, p.Fails f → f.text ≠ (Fault.defect (.notPrechecked name)).text) →
      ∀ failure ∈ ((run p settings source action matched dump).run scene).1.failures,
        failure.2.2 ≠ (Fault.defect (.notPrechecked name)).text

end

variable {p : Platform σ} {settings : Settings} {source : FilterSource} {action : Action}
  {matched : List Filter} {answer : Consequence → Option Bool} {scene : Scene σ}

/-- What is executed, by the answers. -/
def chosen (settings : Settings) (source : FilterSource) (action : Action)
    (answer : Consequence → Option Bool) (matched : List Filter) : List Consequence :=
  inOrder ((survivors settings source action answer matched).filter
    (IsPlaced (survivors settings source action answer matched) ·))

theorem mem_chosen {c : Consequence} (mem : c ∈ chosen settings source action answer matched) :
    ∃ f ∈ matched, c ∈ remaining answer (builtFor settings source action f) := by
  rw [chosen, inOrder, List.mem_mergeSort] at mem
  exact exists_of_mem_survivors (List.mem_filter.mp mem).1

/-- What is left of a filter and is no block is executed. -/
theorem mem_chosen_of_left {f : Filter} (mem : f ∈ matched) {c : Consequence}
    (left : c ∈ Consequence.left answer (builtFor settings source action f))
    (noBlock : c.kind ≠ .block) :
    Consequence.answered answer c ∈ chosen settings source action answer matched := by
  rw [chosen, inOrder, List.mem_mergeSort, List.mem_filter]
  refine ⟨List.mem_flatMap.mpr ⟨f, mem, List.mem_map_of_mem left⟩, decide_eq_true ?_⟩
  apply isPlaced_of_ne_block
  rw [kind_answered]
  exact noBlock

/-- No two consequences that are chosen have the same filter and the same name. -/
theorem nodup_chosen (distinct : (matched.filterMap Filter.id).Nodup)
    (answer : Consequence → Option Bool) :
    ((chosen settings source action answer matched).map Consequence.label).Nodup := by
  refine ((List.mergeSort_perm _ _).map _).nodup_iff.mpr ?_
  exact (nodup_survivors distinct).sublist (List.filter_sublist.map Consequence.label)

/-- What is executed of a filter. -/
theorem filter_chosen (distinct : (matched.filterMap Filter.id).Nodup) {f : Filter}
    {id : FilterId} (mem : f ∈ matched) (isId : f.id = some id) :
    (chosen settings source action answer matched).filter (·.subject.filter == id) =
      (remaining answer (builtFor settings source action f)).filter
        (IsPlaced (survivors settings source action answer matched) ·) := by
  have own : ((survivors settings source action answer matched).filter
        (IsPlaced (survivors settings source action answer matched) ·)).filter
          (·.subject.filter == id) =
      (remaining answer (builtFor settings source action f)).filter
        (IsPlaced (survivors settings source action answer matched) ·) := by
    rw [← filter_survivors distinct mem isId, List.filter_filter, List.filter_filter]
    exact List.filter_congr fun c _ => Bool.and_comm _ _
  have ordered : (remaining answer (builtFor settings source action f)).Pairwise
      fun c d => c.priority ≤ d.priority := by
    refine pairwise_remaining ?_ (ordered_builtFor settings source action f)
    intro c d least
    rw [Consequence.priority, Consequence.priority, kind_answered, kind_answered]
    exact least
  rw [chosen, filter_inOrder, own]
  rw [own]
  exact ordered.filter _

/-- What may suppress others was asked before it is executed. -/
theorem isSome_of_mem_chosen {c : Consequence}
    (mem : c ∈ chosen settings source action answer matched)
    (isDisabler : c.kind.isDisabler = true) : c.suppresses.isSome := by
  obtain ⟨f, _, left⟩ := mem_chosen mem
  exact isSome_of_mem_remaining left isDisabler

/-- Asking the filters leaves what is executed. -/
theorem Asked.run_pending (asked : Asked settings source action p matched scene answer)
    (distinct : (matched.filterMap Filter.id).Nodup) :
    (pending p settings source action matched).run scene =
      (chosen settings source action answer matched,
        ((ofFilters p settings source action matched).run scene).2) := by
  have run : (pending p settings source action matched).run scene =
      (inOrder (keepLongestBlock ((ofFilters p settings source action matched).run scene).1),
        ((ofFilters p settings source action matched).run scene).2) := rfl
  rw [run, asked.leaves, keepLongestBlock_eq (singleBlocks_survivors distinct), chosen]

/-- What is executed is carried out after all filters were asked. -/
theorem Asked.run_run (asked : Asked settings source action p matched scene answer)
    (distinct : (matched.filterMap Filter.id).Nodup) (dump : Option String) :
    (run p settings source action matched dump).run scene =
      (conclude p settings action matched dump
        (chosen settings source action answer matched)).run
          ((ofFilters p settings source action matched).run scene).2 := by
  rw [run_eq, StateT.run_bind, asked.run_pending distinct]
  rfl

/-- What is executed depends on the answers of the consequences alone. -/
theorem chosen_congr {first second : Consequence → Option Bool}
    (same : ∀ f ∈ matched, ∀ c ∈ builtFor settings source action f, first c = second c) :
    chosen settings source action first matched = chosen settings source action second matched := by
  rw [chosen, chosen, survivors_congr settings source action same]

/-- If questions change nothing, then the answers are those in the scene before, and it is the
scene in which the consequences are carried out. -/
theorem run_pending_of_readsOnly (readsOnly : p.ReadsOnly)
    (distinct : (matched.filterMap Filter.id).Nodup) (scene : Scene σ) :
    (pending p settings source action matched).run scene =
      (chosen settings source action (Consequence.answerAt p settings scene) matched, scene) := by
  obtain ⟨answer, asked⟩ := exists_asked settings source action p distinct scene
  have before : ∀ f ∈ matched, ∀ c ∈ builtFor settings source action f,
      answer c = c.answerAt p settings scene :=
    fun f mem c built => (asked.given f mem).of_readsOnly readsOnly built
  rw [asked.run_pending distinct, asked.reaches.eq_of_readsOnly readsOnly, chosen_congr before]

theorem Asked.failures (asked : Asked settings source action p matched scene answer)
    (distinct : (matched.filterMap Filter.id).Nodup) {dump : Option String}
    {failure : FilterId × String × String}
    (mem : failure ∈ ((run p settings source action matched dump).run scene).1.failures) :
    IsFailureOf p (chosen settings source action answer matched) failure := by
  rw [asked.run_run distinct] at mem
  rcases carryOutAll_failures (fun c mem => isSome_of_mem_chosen mem) mem with early | failure
  · cases early
  · exact failure

theorem Asked.pending_records (asked : Asked settings source action p matched scene answer) :
    Records scene
      (fun call => ∃ f ∈ matched, MayAskAbout answer (builtFor settings source action f) call)
      (pending p settings source action matched)
      (pending p.recorded settings source action matched) :=
  .bind asked.records (.pure _)

/-- A filter is known by the flag of its warning. -/
theorem eq_of_warnedKey (distinct : (matched.filterMap Filter.id).Nodup) {f g : Filter}
    {id : FilterId} (first : f ∈ matched) (isId : f.id = some id) (second : g ∈ matched)
    {c : Consequence} (concerns : ∃ id, g.id = some id ∧ c.subject = ⟨id, g.name, action⟩)
    (sameKey : warnedKey ⟨id, f.name, action⟩ = warnedKey c.subject) : f = g := by
  obtain ⟨other, isOther, subject⟩ := concerns
  have sameFilter := Consequence.warnedKey_inj (by rw [subject]) sameKey
  rw [subject] at sameFilter
  cases sameFilter
  exact eq_of_id distinct first second isId isOther

/-- Neither the questions nor the effects concern a warning whose filter has an engaged
throttle. -/
theorem flag?_ne_of_engages (distinct : (matched.filterMap Filter.id).Nodup) {f : Filter}
    {id : FilterId} (mem : f ∈ matched) (isId : f.id = some id)
    (engages : ∃ t ∈ builtFor settings source action f, Engages answer t) {call : PlatformCall}
    (may : (∃ g ∈ matched, MayAskAbout answer (builtFor settings source action g) call) ∨
      (∃ c ∈ chosen settings source action answer matched, c.MayDo call) ∨
        call.isQuestion = false ∧ call.flag? = none) :
    call.flag? ≠ some (warnedKey ⟨id, f.name, action⟩) := by
  intro concerns
  rcases may with ⟨g, inside, c, built, asks, disengaged⟩ | ⟨c, chosen, does⟩ | ⟨_, noFlag⟩
  · obtain ⟨isWarn, sameKey⟩ := asks.2 _ concerns
    obtain ⟨other, isOther, subject, _⟩ := mem_builtFor built
    cases eq_of_warnedKey distinct mem isId inside ⟨other, isOther, subject⟩ sameKey
    exact disengaged isWarn engages
  · obtain ⟨isWarn, sameKey⟩ := does.2.2 _ concerns
    obtain ⟨g, inside, left⟩ := mem_chosen chosen
    cases eq_of_warnedKey distinct mem isId inside (subject_of_mem_remaining left) sameKey
    rw [isThrottle_of_engages engages left] at isWarn
    cases isWarn
  · rw [noFlag] at concerns
    cases concerns

/-- Whatever filters matched and however the platform answers and fails, suppression keeps
to its protocol. -/
theorem run_protocol (p : Platform σ) (settings : Settings) (source : FilterSource)
    (action : Action) {matched : List Filter} (distinct : (matched.filterMap Filter.id).Nodup)
    (dump : Option String) (scene : Scene σ) :
    ∃ answer executed questions effects,
      Protocol p settings source action matched dump scene answer executed questions effects := by
  obtain ⟨answer, asked⟩ := exists_asked settings source action p distinct scene
  obtain ⟨questions, mayAsk, askedRecorded⟩ := asked.pending_records []
  obtain ⟨effects, mayDo, concluded⟩ := conclude_records p settings action matched dump
    (chosen settings source action answer matched)
    ((ofFilters p settings source action matched).run scene).2 questions
  rw [asked.run_pending distinct, List.nil_append] at askedRecorded
  refine ⟨answer, chosen settings source action answer matched, questions, effects, ?_⟩
  constructor
  case given => exact asked.given
  case before =>
    intro readsOnly f mem c built
    exact (asked.given f mem).of_readsOnly readsOnly built
  case phases => exact ⟨_, asked.reaches, asked.run_run distinct dump⟩
  case record =>
    rw [asked.run_run distinct, run_eq, StateT.run_bind, askedRecorded]
    exact concluded
  case asks =>
    intro call mem
    obtain ⟨f, _, c, _, asks, _⟩ := mayAsk call mem
    exact asks.1
  case acts =>
    intro call mem
    rcases mayDo call mem with ⟨c, _, does⟩ | ⟨acts, _⟩
    · exact does.1
    · exact acts
  case own => exact fun f mem id isId => filter_chosen distinct mem isId
  case nothingElse =>
    intro c mem
    obtain ⟨f, inside, left⟩ := mem_chosen mem
    exact ⟨f, inside, filter_of_mem_remaining left⟩
  case ordered => exact pairwise_inOrder _
  case untouched =>
    intro f mem id isId engages call inside
    refine flag?_ne_of_engages distinct mem isId engages ?_
    rcases List.mem_append.mp inside with inside | inside
    · exact .inl (mayAsk call inside)
    · exact .inr (mayDo call inside)
  case asked => exact fun c mem => isSome_of_mem_chosen mem
  case failures => exact fun failure mem => asked.failures distinct mem
  case neverUnasked =>
    intro name otherwise failure mem same
    obtain ⟨c, _, f, fails, isFailure⟩ := asked.failures distinct mem
    rw [isFailure] at same
    exact otherwise f fails same

/-- A filter whose throttle has had its hits, and another one with a block. -/
theorem run_protocol_engaged :
    let first := ((Filter.ofRules 1 "true").withAction "throttle"
      ["limit", "0,60", "user"]).withAction "warn" []
    let second := (Filter.ofRules 2 "true").withAction "block" []
    ∃ answer executed questions effects,
      Protocol Ledger.platform {} (FilterStore.toSource ⟨[], .empty⟩) default [first, second] none
        ⟨.opened 0, default⟩ answer executed questions effects := by
  intro first second
  have distinct : ([first, second].filterMap Filter.id).Nodup := by decide
  exact run_protocol Ledger.platform {} _ default distinct none _

end Execution

end EditGuard
