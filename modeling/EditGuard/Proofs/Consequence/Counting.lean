import EditGuard.Proofs.Consequence.History
import EditGuard.Proofs.Consequence.Keys
import EditGuard.Proofs.Consequence.Veto

/-!
# Throttles over histories

A throttle counts the hits of its filter: the counter of a group is the number of the earlier
episodes that matched the filter with the same key, whether or not the throttle was engaged,
and whatever else happened in them.
-/

namespace EditGuard.Execution

/-! ## Keys of one filter -/

/-- The counters of a filter are changed by its throttle alone. -/
theorem of_key_mem_counterKeys {t : Throttle} {settings settings' : Settings} {s : Subject}
    {group : String} {d : Consequence} (mem : t.key settings s group ∈ d.counterKeys settings') :
    d.label = (s.filter, "throttle") := by
  rcases d with ⟨r, measure, suppresses⟩
  cases measure with
  | throttle u =>
      obtain ⟨other, -, same⟩ := List.mem_map.mp mem
      rw [Consequence.label, Throttle.filter_eq_of_key_eq same.symm]
      rfl
  | blockPromotion seconds =>
      exact absurd (List.mem_singleton.mp mem) (Throttle.key_ne_promotionKey _ _ _ _ _)
  | _ => cases mem

/-! ## The throttle of one episode -/

section

variable {e : Episode} {id : FilterId} {actions : Actions} {params : List String} {t : Throttle}
  {s : Subject}

/-- Some group of a throttle has had its hits. -/
def isReached (settings : Settings) (t : Throttle) (s : Subject) (l : Ledger) : Bool :=
  (t.keys settings s).any fun key => decide (t.count ≤ (l.count? key).getD 0)

/-- The throttle of a filter that matched is executed, with the answer that it gives before. -/
theorem throttle_mem_pending {f : Filter} (mem : f ∈ e.occasion.matched) (isId : f.id = some id)
    (loaded : f.loadActions e.occasion.source = .ok actions)
    (declared : (permitted e.occasion.settings id actions).find? "throttle" = some params)
    (accepted : Throttle.ofParams params = .ok t) :
    (⟨⟨id, f.name, e.occasion.action⟩, .throttle t, some (isReached e.occasion.settings t
      ⟨id, f.name, e.occasion.action⟩ e.scene.platform)⟩ : Consequence) ∈ e.pending := by
  let subject : Subject := ⟨id, f.name, e.occasion.action⟩
  let c : Consequence := ⟨subject, .throttle t, none⟩
  have built : c ∈ builtFor e.occasion.settings e.occasion.source e.occasion.action f := by
    rw [builtFor, isId, loaded]
    refine mem_buildAll_of_build ((find?_effectiveActions (by decide)).trans declared) ?_
    change ((Throttle.ofParams params).map Measure.throttle).map _ = _
    rw [accepted]
    rfl
  let engaged : Bool := isReached e.occasion.settings t subject e.scene.platform
  have answers : e.answer c = some engaged := by
    have asked : (c.asksToSuppress Ledger.platform e.occasion.settings).run.run e.scene =
        (.ok engaged, e.scene) :=
      Throttle.run_isEngaged_ledger _ _ _
    rw [Episode.answer, Consequence.answerAt, asked]
    rfl
  have left : c ∈ Consequence.left e.answer
      (builtFor e.occasion.settings e.occasion.source e.occasion.action f) :=
    Consequence.mem_left_of_throttle built rfl (by rw [answers]; rfl)
  have notBlock : c.kind ≠ .block := ConsequenceKind.noConfusion
  have chosen := mem_chosen_of_left mem left notBlock
  rw [answered_of_disabler rfl answers] at chosen
  exact chosen

variable (distinct : (e.occasion.matched.filterMap Filter.id).Nodup)
  (loads : ∀ f ∈ e.occasion.matched, f.id = some id → f.loadActions e.occasion.source = .ok actions)
  (declared : (permitted e.occasion.settings id actions).find? "throttle" = some params)
  (accepted : Throttle.ofParams params = .ok t)
  (distinctKeys : (t.keys e.occasion.settings s).Nodup)
  (inRange : e.occasion.now + t.seconds ≤ Ledger.lastSecond)
  (isSubject : e.occasion.subject? id = some s)
include distinct loads declared accepted distinctKeys inRange isSubject

/-- An episode executes the throttle of a filter that matched once, and counts a hit of each of
its groups, whatever else is executed. -/
theorem throttle_of_episode {engaged : Bool}
    (isEngaged : isReached e.occasion.settings t s e.scene.platform = engaged) :
    e.executed.filter (·.1.label == (id, "throttle")) =
        [(⟨s, .throttle t, some engaged⟩, .ok !engaged)] ∧
      ∀ settings r group, r.filter = id → e.after.counters.find? (t.key settings r group) =
        if t.key settings r group ∈ t.keys e.occasion.settings s then
          some (e.scene.platform.nextCounter (t.key settings r group) t.seconds)
        else e.scene.platform.counters.find? (t.key settings r group) := by
  obtain ⟨f, mem, isId, rfl⟩ := Occasion.exists_of_subject? isSubject
  have isPending := throttle_mem_pending mem isId (loads f mem isId) declared accepted
  rw [isEngaged] at isPending
  obtain ⟨turn, carriedOut, others⟩ := Episode.exists_turn_of_pending distinct isPending
  have sameTime : turn.platform.now = e.occasion.now :=
    (others (fun _ _ _ _ _ _ => rfl) fun d _ _ => d.hidden_now e.occasion.settings).1
  have inRangeNow : turn.platform.now + t.seconds ≤ Ledger.lastSecond := by
    rw [sameTime]
    exact inRange
  obtain ⟨succeeds, counts⟩ := Throttle.run_countHits_ledger distinctKeys turn inRangeNow
  let c : Consequence := ⟨⟨id, f.name, e.occasion.action⟩, .throttle t, some engaged⟩
  let keys : List String := t.keys e.occasion.settings c.subject
  have ran : (c.carryOut Ledger.platform e.occasion.settings).run.run turn =
      (.ok !engaged, ((Throttle.countHits Ledger.platform t.seconds keys).run.run turn).2) := by
    change (Throttle.countHits Ledger.platform t.seconds keys >>=
      fun _ => pure !engaged).run.run turn = _
    exact run_bind_of_ok (Prod.ext succeeds rfl)
  rw [ran] at carriedOut others
  constructor
  · exact Episode.filter_executed distinct carriedOut
  · intro settings r group sameFilter
    have alone : ∀ d ∈ e.pending, d ≠ c →
        d.Hidden (fun l => l.counters.find? (t.key settings r group)) e.occasion.settings := by
      intro d inside other
      refine Consequence.hidden_counter fun changed => other ?_
      have label := of_key_mem_counterKeys changed
      rw [sameFilter] at label
      exact List.inj_on_of_nodup_map (Episode.nodup_pending distinct) inside isPending label
    obtain ⟨before, after⟩ := others (fun _ _ _ _ _ _ => rfl) alone
    have sameNext : turn.platform.nextCounter (t.key settings r group) t.seconds =
        e.scene.platform.nextCounter (t.key settings r group) t.seconds := by
      rw [Ledger.nextCounter, Ledger.nextCounter, before, sameTime]
      rfl
    rw [after, counts, before, sameNext]

end

/-! ## Hits -/

/-- An episode that matched a filter, with a key of a group of its throttle. -/
def Episode.hits (id : FilterId) (t : Throttle) (group key : String) (e : Episode) : Bool :=
  (e.occasion.subject? id).any fun s => t.key e.occasion.settings s group == key

/-- The messages whose digests are parts of the keys of a throttle in a history. -/
def throttleMessages (id : FilterId) (t : Throttle) (os : List Occasion) : Set (List UInt8) :=
  { message | ∃ o ∈ os, ∃ s, o.subject? id = some s ∧
    ∃ group ∈ t.groups, message = Digest.terminated (Throttle.digested o.settings s group) }

/-- A counter that tells a number of hits, and lasts as long as a history. -/
def Tallies (os : List Occasion) (n : Nat) : Option Counter → Prop
  | none => n = 0
  | some c => c.value = n ∧ ∀ o ∈ os, o.now < c.expiry

section

variable {os : List Occasion} {l : Ledger} {key : String} {n : Nat} {o : Occasion}

theorem Tallies.count?_eq (tallies : Tallies os n (l.counters.find? key)) (mem : o ∈ os)
    (isNow : l.now = o.now) : (l.count? key).getD 0 = n := by
  rw [Ledger.count?]
  generalize l.counters.find? key = counter? at tallies ⊢
  cases counter? with
  | none =>
      have zero : n = 0 := tallies
      rw [zero]
      rfl
  | some c =>
      obtain ⟨isCount, lasts⟩ := tallies
      have lasting : decide (l.now < c.expiry) = true := by
        rw [isNow]
        exact decide_eq_true (lasts o mem)
      rw [Option.filter_some, lasting, if_pos rfl]
      exact isCount

theorem Tallies.next (tallies : Tallies os n (l.counters.find? key)) (mem : o ∈ os)
    (isNow : l.now = o.now) {seconds : Nat} (lasts : ∀ later ∈ os, later.now < o.now + seconds) :
    Tallies os (n + 1) (some (l.nextCounter key seconds)) := by
  rw [Ledger.nextCounter]
  generalize l.counters.find? key = counter? at tallies ⊢
  cases counter? with
  | none =>
      have zero : n = 0 := tallies
      subst zero
      refine ⟨rfl, ?_⟩
      rw [isNow]
      exact lasts
  | some c =>
      obtain ⟨isCount, goesOn⟩ := tallies
      have lasting : decide (l.now < c.expiry) = true := by
        rw [isNow]
        exact decide_eq_true (goesOn o mem)
      rw [Option.filter_some, lasting, if_pos rfl]
      refine ⟨?_, goesOn⟩
      change c.value + 1 = _
      rw [isCount, Int.natCast_succ]

end

/-! ## Histories -/

theorem Occasion.filter_of_subject? {o : Occasion} {id : FilterId} {s : Subject}
    (isSubject : o.subject? id = some s) : s.filter = id := by
  obtain ⟨f, -, -, rfl⟩ := exists_of_subject? isSubject
  rfl

/-- An episode that does not match a filter leaves its counters as they were. -/
theorem Episode.find?_counters_of_not_matched {e : Episode} {id : FilterId}
    (distinct : (e.occasion.matched.filterMap Filter.id).Nodup)
    (notMatched : e.occasion.subject? id = none) (t : Throttle) (settings : Settings) {r : Subject}
    (ofFilter : r.filter = id) (group : String) :
    e.after.counters.find? (t.key settings r group) =
      e.before.counters.find? (t.key settings r group) := by
  have untouched : ∀ d ∈ e.pending,
      d.Hidden (fun l => l.counters.find? (t.key settings r group)) e.occasion.settings := by
    intro d inside
    refine Consequence.hidden_counter fun changed => ?_
    have ofThrottle := congrArg Prod.fst (of_key_mem_counterKeys changed)
    have matched := Episode.subject?_of_mem_pending distinct inside
    rw [show d.subject.filter = id from ofThrottle.trans ofFilter, notMatched] at matched
    cases matched
  exact Episode.view_after distinct (fun _ _ _ _ _ _ => rfl) untouched

/-- Among what was executed the throttle tells whether it is engaged. -/
theorem Episode.throttled_eq {e : Episode} {id : FilterId} {c : Consequence}
    {outcome : Except Fault Bool} {engaged : Bool}
    (alone : e.executed.filter (·.1.label == (id, "throttle")) = [(c, outcome)])
    (answer : c.suppresses = some engaged) : e.throttled id = engaged := by
  rw [throttled, ← List.any_filter, alone, List.any_cons, List.any_nil, Bool.or_false, answer]
  cases engaged <;> rfl

section

variable {start : Ledger} {os : List Occasion} {id : FilterId} {actions : Actions}
  {params : List String} {t : Throttle}

/-- What an episode does about the throttle of a filter that matched it, when the earlier
episodes are known. -/
structure CountsHits (id : FilterId) (t : Throttle) (earlier : List Episode) (e : Episode)
    (s : Subject) : Prop where
  /-- It is engaged if a group had its hits before. -/
  engaged : e.throttled id = true ↔ ∃ group ∈ t.groups,
    t.count ≤ earlier.countP (·.hits id t group (t.key e.occasion.settings s group))
  /-- It is executed once, engaged or not, and takes effect if it is not engaged. -/
  executed : e.executed.filter (·.1.label == (id, "throttle")) =
    [(⟨s, .throttle t, some (e.throttled id)⟩, .ok !e.throttled id)]
  /-- The hit is counted once for each group. -/
  counted : ∀ group ∈ t.groups,
    let key := t.key e.occasion.settings s group
    (e.after.counters.find? key).map Counter.value =
      some ((earlier.countP (·.hits id t group key) + 1 : Nat) : Int)
  /-- If there is one group, then its first hits take effect, as many as the count says. -/
  single : ∀ group, t.groups = [group] → (e.throttled id = false ↔
    earlier.countP (·.hits id t group (t.key e.occasion.settings s group)) < t.count.toNat)

/-- All counters of a throttle tell the hits in the episodes so far. -/
def TalliesAll (os : List Occasion) (id : FilterId) (t : Throttle) (past : List Episode)
    (l : Ledger) : Prop :=
  ∀ o ∈ os, ∀ r, o.subject? id = some r → ∀ group ∈ t.groups,
    Tallies os (past.countP (·.hits id t group (t.key o.settings r group)))
      (l.counters.find? (t.key o.settings r group))

section

variable (accepted : Throttle.ofParams params = .ok t)
  (collisionFree : Set.InjOn Digest.sha256 (throttleMessages id t os))
include accepted collisionFree

theorem group_eq_of_key_eq {o other : Occasion} (mem : o ∈ os) (memOther : other ∈ os)
    {s r : Subject} (isSubject : o.subject? id = some s) (isOther : other.subject? id = some r)
    {group group' : String} (first : group ∈ t.groups) (second : group' ∈ t.groups)
    (same : t.key o.settings s group = t.key other.settings r group') : group = group' :=
  Throttle.group_eq_of_key_eq accepted collisionFree first second
    ⟨o, mem, s, isSubject, group, first, rfl⟩ ⟨other, memOther, r, isOther, group', second, rfl⟩ same

/-- The keys of the groups of a throttle differ if the groups do. -/
theorem nodup_keys (groups : t.groups.Nodup) {o : Occasion} (mem : o ∈ os) {s : Subject}
    (isSubject : o.subject? id = some s) : (t.keys o.settings s).Nodup :=
  groups.map_on fun _ first _ second same =>
    group_eq_of_key_eq accepted collisionFree mem mem isSubject isSubject first second same

/-- A key of a group is one of the keys of an action if it is its key of that group. -/
theorem key_mem_keys_iff {o other : Occasion} (mem : o ∈ os) (memOther : other ∈ os)
    {s r : Subject} (isSubject : o.subject? id = some s) (isOther : other.subject? id = some r)
    {group : String} (isGroup : group ∈ t.groups) :
    t.key other.settings r group ∈ t.keys o.settings s ↔
      t.key o.settings s group = t.key other.settings r group := by
  rw [Throttle.keys, List.mem_map]
  constructor
  · rintro ⟨group', isGroup', same⟩
    have sameGroup : group' = group :=
      group_eq_of_key_eq accepted collisionFree mem memOther isSubject isOther isGroup' isGroup same
    subst sameGroup
    exact same
  · exact fun same => ⟨group, isGroup, same⟩

end

section

variable (distinct : ∀ o ∈ os, (o.matched.filterMap Filter.id).Nodup)
  (loads : ∀ o ∈ os, ∀ f ∈ o.matched, f.id = some id → f.loadActions o.source = .ok actions)
  (declared : ∀ o ∈ os, (permitted o.settings id actions).find? "throttle" = some params)
  (accepted : Throttle.ofParams params = .ok t) (groups : t.groups.Nodup)
  (lasting : ∀ o ∈ os, ∀ later ∈ os, later.now < o.now + t.seconds)
  (inRange : ∀ o ∈ os, o.now + t.seconds ≤ Ledger.lastSecond)
  (collisionFree : Set.InjOn Digest.sha256 (throttleMessages id t os))
include distinct loads declared accepted groups lasting inRange collisionFree

/-- What an episode does to a counter that tells the hits before. -/
theorem talliesAll_step {past : List Episode} {e : Episode} (mem : e.occasion ∈ os)
    (tallies : TalliesAll os id t past e.before) : TalliesAll os id t (past ++ [e]) e.after := by
  intro o memToo r isOther group isGroup
  have before := tallies o memToo r isOther group isGroup
  rw [List.countP_append, List.countP_singleton]
  cases isSubject : e.occasion.subject? id with
  | none =>
      have noHit : e.hits id t group (t.key o.settings r group) = false := by
        rw [Episode.hits, isSubject]
        rfl
      rw [noHit, Episode.find?_counters_of_not_matched (distinct _ mem) isSubject t o.settings
        (Occasion.filter_of_subject? isOther)]
      exact before
  | some s =>
      have isHit : e.hits id t group (t.key o.settings r group) =
          (t.key e.occasion.settings s group == t.key o.settings r group) := by
        rw [Episode.hits, isSubject]
        rfl
      have counters := (throttle_of_episode (distinct _ mem) (loads _ mem) (declared _ mem) accepted
        (nodup_keys accepted collisionFree groups mem isSubject) (inRange _ mem) isSubject rfl).2
          o.settings r group (Occasion.filter_of_subject? isOther)
      rw [counters, isHit]
      simp only [key_mem_keys_iff accepted collisionFree mem memToo isSubject isOther isGroup]
      by_cases same : t.key e.occasion.settings s group = t.key o.settings r group
      · rw [if_pos same, if_pos (beq_iff_eq.mpr same)]
        have inScene : Tallies os _ (e.scene.platform.counters.find? (t.key o.settings r group)) :=
          before
        exact inScene.next mem rfl (lasting _ mem)
      · rw [if_neg same, if_neg (mt beq_iff_eq.mp same)]
        exact before

/-- Counters that tell the hits before decide whether a throttle is engaged. -/
theorem countsHits_of_tallies {past : List Episode} {e : Episode} (mem : e.occasion ∈ os)
    (tallies : TalliesAll os id t past e.before) {s : Subject}
    (isSubject : e.occasion.subject? id = some s) : CountsHits id t past e s := by
  obtain ⟨executed, counters⟩ := throttle_of_episode (distinct _ mem) (loads _ mem)
    (declared _ mem) accepted (nodup_keys accepted collisionFree groups mem isSubject)
    (inRange _ mem) isSubject rfl
  have isEngaged := Episode.throttled_eq executed rfl
  have inScene : ∀ group ∈ t.groups,
      Tallies os (past.countP (·.hits id t group (t.key e.occasion.settings s group)))
        (e.scene.platform.counters.find? (t.key e.occasion.settings s group)) :=
    tallies _ mem s isSubject
  have engaged : e.throttled id = true ↔ ∃ group ∈ t.groups,
      t.count ≤ past.countP (·.hits id t group (t.key e.occasion.settings s group)) := by
    rw [isEngaged, isReached, Throttle.keys, List.any_map, List.any_eq_true]
    refine exists_congr fun group => and_congr_right fun isGroup => ?_
    rw [Function.comp_apply, decide_eq_true_eq, (inScene group isGroup).count?_eq mem rfl]
  constructor
  case engaged => exact engaged
  case executed =>
    rw [isEngaged]
    exact executed
  case counted =>
    intro group isGroup key
    have next := (inScene group isGroup).next mem rfl (lasting _ mem)
    have isKey : t.key e.occasion.settings s group ∈ t.keys e.occasion.settings s :=
      List.mem_map_of_mem isGroup
    rw [counters _ s group (Occasion.filter_of_subject? isSubject), if_pos isKey, Option.map_some,
      next.1]
  case single =>
    intro group isOnly
    rw [← Bool.not_eq_true, engaged, isOnly]
    simp only [List.mem_singleton, exists_eq_left]
    omega

/-- A throttle counts the hits of its filter over every history, in which settings, filters, users and
pages take turns, counters last, and digests do not collide. -/
theorem history_counts (unused : start.counters = .empty) {earlier later : List Episode}
    {e : Episode} (split : history start os = earlier ++ e :: later) {s : Subject}
    (isSubject : e.occasion.subject? id = some s) : CountsHits id t earlier e s := by
  have atFirst : TalliesAll os id t [] start := by
    intro o _ r _ group _
    rw [unused]
    rfl
  have tallies : TalliesAll os id t earlier e.before :=
    holds_before atFirst (fun past e mem tallies => talliesAll_step distinct loads declared accepted
      groups lasting inRange collisionFree mem tallies) split
  exact countsHits_of_tallies distinct loads declared accepted groups lasting inRange collisionFree
    (occasion_mem_of_split split) tallies isSubject

end

end

/-- A filter that has its hits, of a user or on a page, with the first one. -/
def limited : Filter :=
  (Filter.ofRules 1 "true").withAction "throttle" ["limit", "1,60", "user", "page"]

/-- A filter that matches twice, of which the second time is one too many. -/
theorem history_counts_twice :
    let id : FilterId := ⟨false, 1⟩
    let t : Throttle := ⟨"limit", 1, 60, ["user", "page"]⟩
    let o : Occasion :=
      ⟨{}, 0, none, .empty, FilterStore.toSource ⟨[], .empty⟩, default, [limited], none⟩
    let s : Subject := ⟨id, "Filter 1", default⟩
    let first : Episode := ⟨o, .opened 0⟩
    let second : Episode := ⟨o, first.after⟩
    history (.opened 0) [o, o] = [first] ++ second :: [] ∧
      CountsHits id t [first] second s ∧ second.throttled id = true := by
  intro id t o s first second
  let params := ["limit", "1,60", "user", "page"]
  have split : history (.opened 0) [o, o] = [first] ++ second :: [] := rfl
  have same : ∀ o' ∈ [o, o], o' = o := by simp
  let message (group : String) := Digest.terminated (Throttle.digested {} s group)
  have differ : Digest.sha256 (message "user") ≠ Digest.sha256 (message "page") := by
    decide +kernel
  have collisionFree : Set.InjOn Digest.sha256 (throttleMessages id t [o, o]) := by
    have pair : Set.InjOn Digest.sha256 {message "user", message "page"} :=
      Set.injOn_pair.mpr fun same => absurd same differ
    refine pair.mono ?_
    rintro _ ⟨o', mem, r, isSubject, group, isGroup, rfl⟩
    rw [same o' mem] at isSubject
    cases isSubject
    rcases List.mem_pair.mp isGroup with rfl | rfl
    · exact .inl rfl
    · exact .inr rfl
  let actions : Actions := Dictionary.empty.insert "throttle" params
  have declared : ∀ o' ∈ [o, o],
      (permitted o'.settings id actions).find? "throttle" = some params := by
    intro o' mem
    rw [same o' mem]
    decide +kernel
  have accepted : Throttle.ofParams params = .ok t := rfl
  have counts : CountsHits id t [first] second s := by
    refine history_counts ?distinct ?loads declared accepted (by decide) ?lasting ?inRange
      collisionFree rfl split rfl
    case distinct =>
      intro o' mem
      rw [same o' mem]
      decide
    case loads =>
      intro o' mem f inside isId
      rw [same o' mem] at inside
      rw [List.mem_singleton.mp inside]
      rfl
    case lasting =>
      intro o' mem later memLater
      rw [same o' mem, same later memLater]
      decide
    case inRange =>
      intro o' mem
      rw [same o' mem]
      decide
  refine ⟨split, counts, counts.engaged.mpr ⟨"user", List.mem_cons_self, ?_⟩⟩
  have hit : first.hits id t "user" (t.key {} s "user") = true :=
    beq_self_eq_true (t.key {} s "user")
  rw [List.countP_singleton, if_pos hit]
  decide

end EditGuard.Execution
