import EditGuard.Proofs.Consequence.History
import EditGuard.Proofs.Consequence.Keys
import EditGuard.Proofs.Consequence.Veto

/-!
# Warnings over histories

A warning is shown, and then it is not, in turns.  Its turns are the episodes on its page that
match its filter while the throttle of the filter is not engaged; no other episode matters.
-/

namespace EditGuard.Execution

open Consequence (answered Engages Warns left)

/-! ## Episodes that count -/

/-- A filter that matched declares an action, and its actions can be loaded. -/
def Occasion.declares (o : Occasion) (id : FilterId) (name : String) : Bool :=
  o.matched.any fun f =>
    f.id == some id && (f.loadActions o.source).toOption.any (·.contains name)

namespace Episode

section

variable (e : Episode)

/-- An episode on a page that matches a filter with a warning, whose throttle, if it has one,
is not engaged. -/
def isTurn (page : String) (id : FilterId) : Bool :=
  e.occasion.action.page == page && e.occasion.declares id "warn" && !e.throttled id

/-- What a filter that matched may do. -/
def built (id : FilterId) : List Consequence :=
  match e.occasion.matched.find? (·.id == some id) with
  | some f => builtFor e.occasion.settings e.occasion.source e.occasion.action f
  | none => []

/-- What was executed of a filter. -/
def own (id : FilterId) : List Consequence :=
  (e.executed.map Prod.fst).filter (·.subject.filter == id)

end

/-- The warning of a filter takes effect: the action is vetoed, nothing but the throttle and
the warning of the filter is executed, and the flag of the warning is set. -/
structure Shows (page : String) (id : FilterId) (e : Episode) : Prop where
  shown : ∃ w, w.kind = .warn ∧ e.executed.filter (·.1.label == (id, "warn")) = [(w, .ok true)]
  vetoed : e.result.vetoed = true
  alone : e.own id = ((e.built id).filter (·.kind.isDisabler)).map (answered e.answer)
  set : e.after.flags.contains (warnedFlag page id) = true

/-- The warning of a filter does not take effect: everything else of the filter is executed,
save for a block that is not the longest, and the flag of the warning is cleared. -/
structure Passes (page : String) (id : FilterId) (e : Episode) : Prop where
  passed : ∃ w, w.kind = .warn ∧ e.executed.filter (·.1.label == (id, "warn")) = [(w, .ok false)]
  all : e.own id = ((e.built id).map (answered e.answer)).filter
    (IsPlaced (survivors e.occasion.settings e.occasion.source e.occasion.action e.answer
      e.occasion.matched) ·)
  cleared : e.after.flags.contains (warnedFlag page id) = false

/-! ## Answers on a ledger -/

variable {e : Episode} {f : Filter} {id : FilterId} {page : String}

/-- On a ledger every consequence can be asked. -/
theorem isSome_answer (c : Consequence) : (e.answer c).isSome := by
  rcases c with ⟨s, measure, suppresses⟩
  cases measure with
  | throttle t =>
      have asked : ((⟨s, .throttle t, suppresses⟩ : Consequence).asksToSuppress Ledger.platform
          e.occasion.settings).run.run e.scene = _ :=
        Throttle.run_isEngaged_ledger t.count (t.keys e.occasion.settings s) e.scene
      rw [answer, Consequence.answerAt, asked]
      rfl
  | _ => rfl

theorem answer_of_warn {w : Consequence} (isWarn : w.kind = .warn) :
    e.answer w = some !e.scene.platform.flags.contains (Consequence.warnedKey w.subject) :=
  Consequence.answerAt_of_warn isWarn

section

variable {cs : List Consequence} (disengaged : ¬ ∃ t ∈ cs, Engages e.answer t)
include disengaged

theorem left_of_warns (warns : ∃ w ∈ cs, Warns e.answer w) :
    left e.answer cs = cs.filter (·.kind.isDisabler) := by
  rw [left, if_neg disengaged, if_pos warns]
  exact List.filter_congr fun c _ => by rw [isSome_answer, Bool.and_true]

theorem left_of_silent (silent : ¬ ∃ w ∈ cs, Warns e.answer w) : left e.answer cs = cs := by
  rw [left, if_neg disengaged, if_neg silent, List.filter_eq_self]
  exact fun c _ => by rw [isSome_answer, Bool.or_true]

end

/-! ## The consequences of a filter that matched -/

section

variable (distinct : (e.occasion.matched.filterMap Filter.id).Nodup) {f : Filter}
  (mem : f ∈ e.occasion.matched) (isId : f.id = some id)
include distinct mem isId

theorem built_eq :
    e.built id = builtFor e.occasion.settings e.occasion.source e.occasion.action f := by
  rw [built, (find?_id_eq_some_iff distinct).mpr ⟨mem, isId⟩]

theorem own_eq :
    e.own id = (remaining e.answer (e.built id)).filter
      (IsPlaced (survivors e.occasion.settings e.occasion.source e.occasion.action e.answer
        e.occasion.matched) ·) := by
  rw [own, map_fst_executed distinct, built_eq distinct mem isId]
  exact filter_chosen distinct mem isId

/-- What is executed of a filter is left of what it may do. -/
theorem exists_of_mem_pending {d : Consequence} (isPending : d ∈ e.pending)
    (ofFilter : d.subject.filter = id) :
    ∃ c ∈ left e.answer (e.built id), d = answered e.answer c := by
  have isOwn : d ∈ e.own id := by
    rw [own, map_fst_executed distinct, List.mem_filter]
    exact ⟨isPending, beq_iff_eq.mpr ofFilter⟩
  rw [own_eq distinct mem isId] at isOwn
  obtain ⟨c, inside, same⟩ := List.mem_map.mp (List.mem_filter.mp isOwn).1
  exact ⟨c, inside, same.symm⟩

/-- The throttle of a filter is engaged if one engages that is built for it. -/
theorem throttled_iff :
    e.throttled id = true ↔ ∃ t ∈ e.built id, Engages e.answer t := by
  rw [throttled, List.any_eq_true]
  constructor
  · rintro ⟨⟨d, outcome⟩, executed, engaged⟩
    rw [Bool.and_eq_true, beq_iff_eq, beq_iff_eq] at engaged
    have isPending : d ∈ e.pending := by
      rw [← map_fst_executed distinct]
      exact List.mem_map_of_mem executed
    obtain ⟨c, inside, rfl⟩ :=
      exists_of_mem_pending distinct mem isId isPending (congrArg Prod.fst engaged.1)
    have isBuilt := (Consequence.left_sublist _ _).subset inside
    refine ⟨c, isBuilt, ?_⟩
    rw [built_eq distinct mem isId] at isBuilt
    have isThrottle : c.kind = .throttle := by
      have named : c.name = "throttle" := by
        have label := congrArg Prod.snd engaged.1
        rw [label_answered] at label
        exact label
      rw [kind_of_mem_builtFor isBuilt, named]
      rfl
    have answer := engaged.2
    rw [answered, isThrottle] at answer
    exact ⟨isThrottle, answer⟩
  · rintro ⟨t, isBuilt, isThrottle, engages⟩
    have inside : t ∈ left e.answer (e.built id) :=
      Consequence.mem_left_of_throttle isBuilt isThrottle (isSome_answer t)
    rw [built_eq distinct mem isId] at isBuilt inside
    have isPending : answered e.answer t ∈ e.pending :=
      mem_chosen_of_left mem inside (by rw [isThrottle]; decide)
    rw [← map_fst_executed distinct, List.mem_map] at isPending
    obtain ⟨o, executed, same⟩ := isPending
    refine ⟨o, executed, ?_⟩
    have named : t.name = "throttle" := Consequence.name_of_kind isThrottle
    have ofFilter := filter_of_mem_builtFor isBuilt
    rw [isId] at ofFilter
    rw [same, label_answered, answered, isThrottle, Bool.and_eq_true, beq_iff_eq, beq_iff_eq]
    exact ⟨Prod.ext (Option.some.inj ofFilter).symm named, engages⟩

/-- A local filter has a warning if it declares one. -/
theorem declares_warn_iff (isLocal : id.isGlobal = false) :
    e.occasion.declares id "warn" = true ↔ ∃ w ∈ e.built id, w.kind = .warn := by
  have permits (actions : Actions) : permitted e.occasion.settings id actions = actions := by
    rw [permitted, isLocal]
    rfl
  rw [Occasion.declares, List.any_eq_true, built_eq distinct mem isId]
  constructor
  · rintro ⟨g, inside, declared⟩
    rw [Bool.and_eq_true, beq_iff_eq] at declared
    obtain ⟨isSame, declared⟩ := declared
    cases eq_of_id distinct inside mem isSame isId
    rw [builtFor, isId]
    cases loaded : f.loadActions e.occasion.source with
    | error fault =>
        rw [loaded] at declared
        cases declared
    | ok actions =>
        rw [loaded] at declared
        obtain ⟨params, found⟩ := Option.isSome_iff_exists.mp declared
        have counts : (effectiveActions e.occasion.settings id actions).find? "warn" =
            some params := by
          rw [find?_effectiveActions (by decide), permits]
          exact found
        exact ⟨⟨_, .warn (Measure.firstOr "abusefilter-warning" params), none⟩,
          mem_buildAll_of_build counts rfl, rfl⟩
  · rintro ⟨w, isBuilt, isWarn⟩
    refine ⟨f, mem, ?_⟩
    have named : w.name = "warn" := Consequence.name_of_kind isWarn
    rw [builtFor, isId] at isBuilt
    cases loaded : f.loadActions e.occasion.source with
    | error fault =>
        rw [loaded] at isBuilt
        cases isBuilt
    | ok actions =>
        rw [loaded] at isBuilt
        obtain ⟨params, found, -⟩ := exists_of_mem_buildAll isBuilt
        rw [named, find?_effectiveActions (by decide), permits] at found
        rw [isId, Bool.and_eq_true, beq_iff_eq]
        exact ⟨rfl, Option.isSome_iff_exists.mpr ⟨params, found⟩⟩

end

/-! ## One episode -/

/-- All that is executed is about the action of the episode. -/
theorem action_of_mem_pending {d : Consequence} (isPending : d ∈ e.pending) :
    d.subject.action = e.occasion.action := by
  obtain ⟨f, -, left⟩ := mem_chosen isPending
  obtain ⟨id, -, subject⟩ := subject_of_mem_remaining left
  rw [subject]

theorem of_mem_flagKey? {d : Consequence} {key : String} (mem : key ∈ d.flagKey?) :
    d.kind = .warn ∧ key = Consequence.warnedKey d.subject := by
  rcases d with ⟨s, measure, suppresses⟩
  cases measure with
  | warn message =>
      cases mem
      exact ⟨rfl, rfl⟩
  | _ => cases mem

section

variable (distinct : (e.occasion.matched.filterMap Filter.id).Nodup)
include distinct

/-- A warning that is executed takes effect if it suppresses the others, and leaves its flag
set if it takes effect. -/
theorem executed_of_warn {w : Consequence} (isPending : w ∈ e.pending)
    (isWarn : w.kind = .warn) {shows : Bool} (answer : w.suppresses = some shows) :
    e.executed.filter (·.1.label == w.label) = [(w, .ok shows)] ∧
      e.after.flags.contains (Consequence.warnedKey w.subject) = shows := by
  obtain ⟨turn, carriedOut, others⟩ := exists_turn_of_pending distinct isPending
  have ran : ((w.carryOut Ledger.platform e.occasion.settings).run.run turn).1 = .ok shows ∧
      ((w.carryOut Ledger.platform e.occasion.settings).run.run turn).2.platform.flags.contains
        (Consequence.warnedKey w.subject) = shows := by
    rcases w with ⟨s, measure, suppresses⟩
    cases measure with
    | warn message =>
        cases answer
        cases shows with
        | true =>
            refine ⟨rfl, ?_⟩
            change (turn.platform.flags.insert (Consequence.warnedKey s) ()).contains _ = true
            rw [Dictionary.contains, Dictionary.find?_insert, if_pos rfl]
            rfl
        | false =>
            refine ⟨rfl, ?_⟩
            change (turn.platform.flags.erase (Consequence.warnedKey s)).contains _ = false
            rw [Dictionary.contains, Dictionary.find?_erase, if_pos rfl]
            rfl
    | _ => cases isWarn
  rw [ran.1] at carriedOut
  constructor
  · exact filter_executed distinct carriedOut
  · have alone : ∀ d ∈ e.pending, d ≠ w →
        d.Hidden (fun l => l.flags.contains (Consequence.warnedKey w.subject))
          e.occasion.settings := by
      intro d inside other
      refine Consequence.hidden_flag fun changed => other ?_
      obtain ⟨isWarnToo, sameKey⟩ := of_mem_flagKey? changed
      have samePage : w.subject.action.page = d.subject.action.page := by
        rw [action_of_mem_pending isPending, action_of_mem_pending inside]
      have named : w.name = "warn" := Consequence.name_of_kind isWarn
      have namedToo : d.name = "warn" := Consequence.name_of_kind isWarnToo
      have sameLabel : d.label = w.label :=
        Prod.ext (Consequence.warnedKey_inj samePage sameKey).symm (namedToo.trans named.symm)
      exact List.inj_on_of_nodup_map (nodup_pending distinct) inside isPending sameLabel
    rw [(others (fun _ _ _ _ _ _ => rfl) alone).2]
    exact ran.2

/-- What a turn of a warning is made of. -/
theorem exists_of_isTurn (isLocal : id.isGlobal = false) (turn : e.isTurn page id = true) :
    ∃ f ∈ e.occasion.matched, f.id = some id ∧ ∃ w ∈ e.built id,
      w.kind = .warn ∧ Consequence.warnedKey w.subject = warnedFlag page id ∧
        w.label = (id, "warn") ∧ ¬ ∃ t ∈ e.built id, Engages e.answer t := by
  rw [isTurn, Bool.and_eq_true, Bool.and_eq_true, beq_iff_eq, Bool.not_eq_true'] at turn
  obtain ⟨⟨samePage, declared⟩, free⟩ := turn
  obtain ⟨f, mem, declares⟩ := List.any_eq_true.mp declared
  have isId : f.id = some id := beq_iff_eq.mp ((Bool.and_eq_true _ _).mp declares).1
  obtain ⟨w, isBuilt, isWarn⟩ : ∃ w ∈ e.built id, w.kind = .warn :=
    (declares_warn_iff distinct mem isId isLocal).mp declared
  have named : w.name = "warn" := Consequence.name_of_kind isWarn
  have subject : w.subject = ⟨id, f.name, e.occasion.action⟩ := by
    rw [built_eq distinct mem isId] at isBuilt
    obtain ⟨other, isOther, subject, -⟩ := mem_builtFor isBuilt
    rw [isId] at isOther
    cases isOther
    exact subject
  refine ⟨f, mem, isId, w, isBuilt, isWarn, ?_, ?_, ?_⟩
  · rw [subject, Consequence.warnedKey_eq, ← samePage]
  · rw [Consequence.label, subject, named]
  · rw [← throttled_iff distinct mem isId, free]
    exact Bool.false_ne_true

/-- A warning that is left takes effect as it answers. -/
theorem executed_of_left {f : Filter} (mem : f ∈ e.occasion.matched) (isId : f.id = some id)
    {w : Consequence} (inside : w ∈ left e.answer (e.built id)) (isWarn : w.kind = .warn)
    {shows : Bool} (answers : e.answer w = some shows) :
    (∃ v, v.kind = .warn ∧ e.executed.filter (·.1.label == w.label) = [(v, .ok shows)]) ∧
      e.after.flags.contains (Consequence.warnedKey w.subject) = shows := by
  have isDisabler : w.kind.isDisabler = true := by
    rw [isWarn]
    rfl
  have isPending : answered e.answer w ∈ e.pending := by
    rw [built_eq distinct mem isId] at inside
    exact mem_chosen_of_left mem inside (by rw [isWarn]; decide)
  have warns : (answered e.answer w).kind = .warn := by rw [kind_answered, isWarn]
  have suppresses : (answered e.answer w).suppresses = some shows := by
    rw [answered_of_disabler isDisabler answers]
  obtain ⟨executed, flag⟩ := executed_of_warn distinct isPending warns suppresses
  rw [label_answered] at executed
  rw [(answered_subject _ w).1] at flag
  exact ⟨⟨_, warns, executed⟩, flag⟩

/-- In a turn a warning whose flag is not set takes effect. -/
theorem shows_of_isTurn (isLocal : id.isGlobal = false) (turn : e.isTurn page id = true)
    (unset : e.scene.platform.flags.contains (warnedFlag page id) = false) : e.Shows page id := by
  obtain ⟨f, mem, isId, w, isBuilt, isWarn, key, label, disengaged⟩ :=
    exists_of_isTurn distinct isLocal turn
  have answers : e.answer w = some true := by
    rw [answer_of_warn isWarn, key, unset]
    rfl
  have isLeft := left_of_warns disengaged ⟨w, isBuilt, isWarn, answers⟩
  have inside : w ∈ left e.answer (e.built id) := by
    rw [isLeft]
    exact List.mem_filter.mpr ⟨isBuilt, by rw [isWarn]; rfl⟩
  obtain ⟨⟨v, isShown, executed⟩, isSet⟩ := executed_of_left distinct mem isId inside isWarn answers
  rw [label] at executed
  rw [key] at isSet
  constructor
  case shown => exact ⟨v, isShown, executed⟩
  case vetoed =>
    refine (vetoed_run_iff _ _ _ _ _ _ _).mpr ⟨v, ?_, by rw [isShown]; rfl⟩
    exact (List.mem_filter.mp (executed ▸ List.mem_cons_self)).1
  case alone =>
    rw [own_eq distinct mem isId, remaining, isLeft, List.filter_eq_self]
    intro c suppressing
    obtain ⟨d, kept, rfl⟩ := List.mem_map.mp suppressing
    refine decide_eq_true (isPlaced_of_ne_block ?_)
    rw [kind_answered]
    intro isBlock
    have isDisabler := (List.mem_filter.mp kept).2
    rw [isBlock] at isDisabler
    contradiction
  case set => exact isSet

/-- In a turn a warning whose flag is set does not take effect. -/
theorem passes_of_isTurn (isLocal : id.isGlobal = false) (turn : e.isTurn page id = true)
    (isSet : e.scene.platform.flags.contains (warnedFlag page id) = true) : e.Passes page id := by
  obtain ⟨f, mem, isId, w, isBuilt, isWarn, key, label, disengaged⟩ :=
    exists_of_isTurn distinct isLocal turn
  have answers : e.answer w = some false := by
    rw [answer_of_warn isWarn, key, isSet]
    rfl
  have silent : ¬ ∃ v ∈ e.built id, Warns e.answer v := by
    rintro ⟨v, isBuiltToo, isWarnToo, warns⟩
    have named : w.name = "warn" := Consequence.name_of_kind isWarn
    have namedToo : v.name = "warn" := Consequence.name_of_kind isWarnToo
    rw [built_eq distinct mem isId] at isBuilt isBuiltToo
    have same : v = w := List.inj_on_of_nodup_map (nodup_names_builtFor _ _ _ f) isBuiltToo isBuilt
      (namedToo.trans named.symm)
    rw [same, answers] at warns
    cases warns
  have isLeft := left_of_silent disengaged silent
  have inside : w ∈ left e.answer (e.built id) := by
    rw [isLeft]
    exact isBuilt
  obtain ⟨⟨v, isShown, executed⟩, cleared⟩ :=
    executed_of_left distinct mem isId inside isWarn answers
  rw [label] at executed
  rw [key] at cleared
  constructor
  case passed => exact ⟨v, isShown, executed⟩
  case all => rw [own_eq distinct mem isId, remaining, isLeft]
  case cleared => exact cleared

/-- An episode that is no turn of a warning leaves its flag as it was. -/
theorem contains_flag_of_not_isTurn
    (allLocal : ∀ f ∈ e.occasion.matched, ∀ id ∈ f.id, id.isGlobal = false)
    (isLocal : id.isGlobal = false) (other : e.isTurn page id = false) :
    e.after.flags.contains (warnedFlag page id) =
      e.scene.platform.flags.contains (warnedFlag page id) := by
  have untouched : ∀ d ∈ e.pending,
      d.Hidden (fun l => l.flags.contains (warnedFlag page id)) e.occasion.settings := by
    intro d isPending
    refine Consequence.hidden_flag fun changed => ?_
    obtain ⟨isWarn, sameKey⟩ := of_mem_flagKey? changed
    obtain ⟨f, mem, isId, -⟩ :=
      Occasion.exists_of_subject? (subject?_of_mem_pending distinct isPending)
    obtain ⟨samePage, sameFilter⟩ := warnedFlag_inj isLocal (allLocal f mem _ isId) sameKey
    rw [action_of_mem_pending isPending] at samePage
    rw [← sameFilter] at isId
    obtain ⟨c, inside, rfl⟩ := exists_of_mem_pending distinct mem isId isPending sameFilter.symm
    rw [kind_answered] at isWarn
    have isBuilt : ∃ w ∈ e.built id, w.kind = .warn :=
      ⟨c, (Consequence.left_sublist _ _).subset inside, isWarn⟩
    have declared := (declares_warn_iff distinct mem isId isLocal).mpr isBuilt
    have free : e.throttled id = false := by
      rw [← Bool.not_eq_true, throttled_iff distinct mem isId]
      intro engages
      rw [left, if_pos engages] at inside
      rw [beq_iff_eq.mp (List.mem_filter.mp inside).2] at isWarn
      cases isWarn
    rw [isTurn, ← samePage, declared, free, beq_self_eq_true] at other
    cases other
  exact view_after distinct (fun _ _ _ _ _ _ => rfl) untouched

end

end Episode

/-! ## Histories -/

/-- The flag of a warning is set if the warning had an odd number of turns. -/
def FlagTells (page : String) (id : FilterId) (past : List Episode) (l : Ledger) : Prop :=
  l.flags.contains (warnedFlag page id) = true ↔ past.countP (·.isTurn page id) % 2 = 1

/-- What an episode does about the warning of a filter about a page, when the earlier episodes
are known. -/
structure Alternates (page : String) (id : FilterId) (earlier : List Episode) (e : Episode) :
    Prop where
  flag : FlagTells page id earlier e.before
  /-- The first turn, the third, and so on. -/
  shows : e.isTurn page id = true →
    earlier.countP (·.isTurn page id) % 2 = 0 → e.Shows page id
  /-- The second turn, the fourth, and so on. -/
  passes : e.isTurn page id = true →
    earlier.countP (·.isTurn page id) % 2 = 1 → e.Passes page id
  /-- Nothing else matters. -/
  others : e.isTurn page id = false →
    e.after.flags.contains (warnedFlag page id) = e.before.flags.contains (warnedFlag page id)

section

variable {start : Ledger} {os : List Occasion} {page : String} {id : FilterId}
  (distinct : ∀ o ∈ os, (o.matched.filterMap Filter.id).Nodup)
  (allLocal : ∀ o ∈ os, ∀ f ∈ o.matched, ∀ id ∈ f.id, id.isGlobal = false)
  (oneSession : ∀ o ∈ os, o.session? = none) (isLocal : id.isGlobal = false)
include distinct allLocal oneSession isLocal

/-- If the flag tells the number of turns before, then a turn is one of its kind. -/
theorem alternates_of_flag {past : List Episode} {e : Episode} (mem : e.occasion ∈ os)
    (flag : FlagTells page id past e.before) : Alternates page id past e := by
  have inScene : e.scene.platform.flags = e.before.flags := by
    have goesOn : e.scene.platform.flags = e.occasion.session?.getD e.before.flags := rfl
    rw [goesOn, oneSession _ mem]
    rfl
  constructor
  case flag => exact flag
  case shows =>
    intro turn even
    refine Episode.shows_of_isTurn (distinct _ mem) isLocal turn ?_
    rw [inScene, ← Bool.not_eq_true]
    intro isSet
    have odd := flag.mp isSet
    omega
  case passes =>
    intro turn odd
    refine Episode.passes_of_isTurn (distinct _ mem) isLocal turn ?_
    rw [inScene]
    exact flag.mpr odd
  case others =>
    intro other
    rw [Episode.contains_flag_of_not_isTurn (distinct _ mem) (allLocal _ mem) isLocal other,
      inScene]

/-- A turn of a warning changes its flag, and no other episode does. -/
theorem flagTells_step {past : List Episode} {e : Episode} (mem : e.occasion ∈ os)
    (flag : FlagTells page id past e.before) :
    FlagTells page id (past ++ [e]) e.after := by
  have alternates := alternates_of_flag distinct allLocal oneSession isLocal mem flag
  rw [FlagTells, List.countP_append, List.countP_singleton]
  cases turn : e.isTurn page id with
  | false =>
      rw [alternates.others turn]
      exact flag
  | true =>
      rw [if_pos rfl]
      rcases Nat.mod_two_eq_zero_or_one (past.countP (·.isTurn page id)) with even | odd
      · rw [(alternates.shows turn even).set]
        exact iff_of_true rfl (by omega)
      · rw [(alternates.passes turn odd).cleared]
        exact iff_of_false Bool.false_ne_true (by omega)

/-- In every history of one session, in which local filters match on any pages and under any
settings, the warning of a filter about a page takes effect in every other one of its turns, from
the first on. -/
theorem history_alternates (fresh : start.flags = .empty) {earlier later : List Episode}
    {e : Episode} (split : history start os = earlier ++ e :: later) :
    Alternates page id earlier e := by
  have atFirst : FlagTells page id [] start := by
    rw [FlagTells, fresh, List.countP_nil]
    exact iff_of_false Bool.false_ne_true Nat.zero_ne_one
  have flag : FlagTells page id earlier e.before :=
    holds_before atFirst (fun past e mem flag => flagTells_step distinct allLocal oneSession isLocal
      mem flag) split
  exact alternates_of_flag distinct allLocal oneSession isLocal (occasion_mem_of_split split) flag

end

/-- A filter with a warning matches twice on a page, under other settings the second time; the
first time the warning takes effect. -/
theorem history_alternates_twice :
    let id : FilterId := ⟨false, 1⟩
    let warning := (Filter.ofRules 1 "true").withAction "warn" []
    let o : Occasion :=
      ⟨{}, 0, none, .empty, FilterStore.toSource ⟨[], .empty⟩, default, [warning], none⟩
    let other : Occasion := { o with settings := { wikiName := "other" } }
    let first : Episode := ⟨o, .opened 0⟩
    let second : Episode := ⟨other, first.after⟩
    history (.opened 0) [o, other] = [first, second] ∧
      (Alternates "" id [] first ∧ first.Shows "" id) ∧
      Alternates "" id [first] second ∧ second.Passes "" id := by
  intro id warning o other first second
  have same : ∀ o' ∈ [o, other], o'.matched = [warning] ∧ o'.session? = none := by
    intro o' mem
    rcases List.mem_pair.mp mem with rfl | rfl <;> exact ⟨rfl, rfl⟩
  have distinct : ∀ o' ∈ [o, other], (o'.matched.filterMap Filter.id).Nodup := by
    intro o' mem
    rw [(same o' mem).1]
    decide
  have allLocal : ∀ o' ∈ [o, other], ∀ f ∈ o'.matched, ∀ id ∈ f.id, id.isGlobal = false := by
    intro o' mem
    rw [(same o' mem).1]
    decide
  have oneSession : ∀ o' ∈ [o, other], o'.session? = none := fun o' mem => (same o' mem).2
  have turn : first.isTurn "" id = true := by decide +kernel
  have again : second.isTurn "" id = true := by decide +kernel
  have splitFirst : history (.opened 0) [o, other] = [] ++ first :: [second] := rfl
  have splitSecond : history (.opened 0) [o, other] = [first] ++ second :: [] := rfl
  have atFirst : Alternates "" id [] first :=
    history_alternates distinct allLocal oneSession rfl rfl splitFirst
  have next : Alternates "" id [first] second :=
    history_alternates distinct allLocal oneSession rfl rfl splitSecond
  refine ⟨rfl, ⟨atFirst, atFirst.shows turn rfl⟩, next, next.passes again ?_⟩
  rw [List.countP_singleton, if_pos turn]

end EditGuard.Execution
