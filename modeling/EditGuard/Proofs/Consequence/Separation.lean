import EditGuard.Proofs.Consequence.Counting
import EditGuard.Proofs.Consequence.Identifiers
import EditGuard.Proofs.Consequence.Warning

/-!
# Which subjects share counters and flags

A throttle is engaged by the hits under its own keys, and a warning passes by its own flag.
Subjects are told apart by their keys, except that commas in names join the identifiers of a
group in more than one way, and that the page of a local filter may end like the text of a
global one.
-/

namespace EditGuard

/-! ## Flags that are shared -/

/-- The flag of a global filter is also that of a local one about a longer page. -/
theorem warnedFlag_global (page : String) (n : Nat) :
    warnedFlag page ⟨true, n⟩ = warnedFlag (page ++ "-global") ⟨false, n⟩ := by
  have text : FilterId.text ⟨true, n⟩ = "global-" ++ FilterId.text ⟨false, n⟩ := rfl
  apply String.toList_inj.mp
  rw [toList_warnedFlag, toList_warnedFlag, text]
  simp only [String.toList_append, List.append_assoc]
  rfl

/-- A local filter about a page that ends like the text of a global one, and this global one
about the page before that. -/
def Confusable (page : String) (id : FilterId) (page' : String) (id' : FilterId) : Prop :=
  id.isGlobal = false ∧ id' = ⟨true, id.number⟩ ∧ page = page' ++ "-global"

/-- The warnings of two filters about two pages have one flag. -/
def SharesFlag (page : String) (id : FilterId) (page' : String) (id' : FilterId) : Prop :=
  (page = page' ∧ id = id') ∨ Confusable page id page' id' ∨ Confusable page' id' page id

/-- The page in the flag of a warning, as it stands before the number of the filter. -/
def flagPage (page : String) (id : FilterId) : String :=
  if id.isGlobal then page ++ "-global" else page

theorem warnedFlag_eq_local (page : String) (id : FilterId) :
    warnedFlag page id = warnedFlag (flagPage page id) ⟨false, id.number⟩ := by
  rcases id with ⟨isGlobal, n⟩
  cases isGlobal with
  | false => rfl
  | true => exact warnedFlag_global page n

theorem warnedFlag_eq_iff {page page' : String} {id id' : FilterId} :
    warnedFlag page id = warnedFlag page' id' ↔ SharesFlag page id page' id' := by
  have told : warnedFlag page id = warnedFlag page' id' ↔
      flagPage page id = flagPage page' id' ∧ id.number = id'.number := by
    rw [warnedFlag_eq_local page id, warnedFlag_eq_local page' id']
    constructor
    · intro same
      obtain ⟨pages, filters⟩ := warnedFlag_inj rfl rfl same
      exact ⟨pages, (FilterId.mk.inj filters).2⟩
    · rintro ⟨pages, numbers⟩
      rw [pages, numbers]
  rw [told, SharesFlag, Confusable, Confusable]
  rcases id with ⟨isGlobal, m⟩
  rcases id' with ⟨isGlobal', n⟩
  -- Pages that both have the mark of a global filter, or both lack it, are compared as they are.
  cases isGlobal <;> cases isGlobal' <;> simp [flagPage, eq_comm, and_comm]

namespace Execution

/-! ## Warnings over histories -/

section

variable {page : String} {id : FilterId}

/-- An episode changes a flag only if a filter that matched, about the page of its action, has
it. -/
theorem contains_flag_of_unshared {e : Episode}
    (distinct : (e.occasion.matched.filterMap Filter.id).Nodup)
    (noSession : e.occasion.session? = none)
    (unshared : ∀ f ∈ e.occasion.matched, ∀ other ∈ f.id,
      ¬ SharesFlag e.occasion.action.page other page id) :
    e.after.flags.contains (warnedFlag page id) =
      e.before.flags.contains (warnedFlag page id) := by
  have inScene : e.scene.platform.flags = e.before.flags := by
    have goesOn : e.scene.platform.flags = e.occasion.session?.getD e.before.flags := rfl
    rw [goesOn, noSession]
    rfl
  have untouched : ∀ c ∈ e.pending,
      c.Hidden (fun l => l.flags.contains (warnedFlag page id)) e.occasion.settings := by
    intro c isPending
    refine Consequence.hidden_flag fun changed => ?_
    obtain ⟨-, sameKey⟩ := Episode.of_mem_flagKey? changed
    obtain ⟨f, inside, isId, -⟩ := Occasion.exists_of_subject?
      (Episode.subject?_of_mem_pending distinct isPending)
    rw [Consequence.warnedKey_eq, Episode.action_of_mem_pending isPending] at sameKey
    exact unshared f inside _ isId (warnedFlag_eq_iff.mp sameKey.symm)
  have after := Episode.view_after distinct (fun _ _ _ _ _ _ => rfl) untouched
  rw [after, inScene]

end

/-- The flag of a warning tells the page and the filter, except that a local filter about a page
that ends in `-global` shares the flag of the global one of its number.  In every history of one
session a warning is shown as if nothing had happened before, as long as no filter that shares
its flag has matched. -/
theorem warnings_separate (start : Ledger) (os : List Occasion) :
    (∀ page id page' id',
      warnedFlag page id = warnedFlag page' id' ↔ SharesFlag page id page' id') ∧
    ((∀ o ∈ os, (o.matched.filterMap Filter.id).Nodup) → (∀ o ∈ os, o.session? = none) →
      ∀ earlier (e : Episode) later, history start os = earlier ++ e :: later →
      ∀ w : Consequence, w.kind = .warn →
      (∀ d ∈ earlier, ∀ f ∈ d.occasion.matched, ∀ id ∈ f.id,
        ¬ SharesFlag d.occasion.action.page id w.subject.action.page w.subject.filter) →
      e.answer w = (⟨e.occasion, start⟩ : Episode).answer w) := by
  refine ⟨fun _ _ _ _ => warnedFlag_eq_iff, ?_⟩
  intro distinct oneSession earlier e later split w isWarn unshared
  have noSession : e.occasion.session? = none := oneSession _ (occasion_mem_of_split split)
  have inScene (l : Ledger) : (⟨e.occasion, l⟩ : Episode).scene.platform.flags = l.flags := by
    have goesOn : (⟨e.occasion, l⟩ : Episode).scene.platform.flags =
        e.occasion.session?.getD l.flags := rfl
    rw [goesOn, noSession]
    rfl
  let flag := warnedFlag w.subject.action.page w.subject.filter
  have sameFlag : e.before.flags.contains flag = start.flags.contains flag :=
    view_before (fun l => l.flags.contains flag) split fun d mem inside =>
      contains_flag_of_unshared (distinct _ inside) (oneSession _ inside) (unshared d mem)
  rw [Episode.answer_of_warn isWarn, Episode.answer_of_warn isWarn, Consequence.warnedKey_eq,
    inScene e.before, inScene start, sameFlag]

/-- An action about a page by a user without an account. -/
def edit (userName page : String) : Action :=
  { (default : Action) with userName, page }

/-- A filter that matched an edit at the beginning of time, with its actions. -/
def edited (f : Filter) (userName page : String) : Occasion :=
  ⟨{}, 0, none, .empty, FilterStore.toSource ⟨[], .empty⟩, edit userName page, [f], none⟩

/-- A local filter that warns. -/
def warning : Filter :=
  (Filter.ofRules 7 "true").withAction "warn" []

/-- After a warning about one page the same filter warns about another one. -/
theorem warnings_separate_pages :
    let os := [edited warning "A" "Main", edited warning "A" "Main-global"]
    let first : Episode := ⟨edited warning "A" "Main", .opened 0⟩
    let second : Episode := ⟨edited warning "A" "Main-global", first.after⟩
    let w : Consequence :=
      ⟨⟨⟨false, 7⟩, "Filter 7", edit "A" "Main-global"⟩, .warn "abusefilter-warning", none⟩
    history (.opened 0) os = [first] ++ second :: [] ∧
      warnedFlag "Main" ⟨false, 7⟩ ≠ warnedFlag "Main-global" ⟨false, 7⟩ ∧
      second.answer w = some true := by
  intro os first second w
  have unshared : ¬ SharesFlag "Main" ⟨false, 7⟩ "Main-global" ⟨false, 7⟩ := by
    rintro (⟨pages, -⟩ | ⟨-, filters, -⟩ | ⟨-, filters, -⟩)
    · exact absurd pages (by decide)
    · cases filters
    · cases filters
  have matched : ∀ o ∈ os, o.matched = [warning] ∧ o.session? = none := by
    intro o mem
    rcases List.mem_pair.mp mem with rfl | rfl <;> exact ⟨rfl, rfl⟩
  obtain ⟨tells, separate⟩ := warnings_separate (.opened 0) os
  refine ⟨rfl, mt (tells _ _ _ _).mp unshared, ?_⟩
  have asOnFirst : second.answer w = (⟨second.occasion, .opened 0⟩ : Episode).answer w := by
    refine separate ?distinct ?oneSession [first] second [] rfl w rfl ?_
    case distinct =>
      intro o mem
      rw [(matched o mem).1]
      decide
    case oneSession => exact fun o mem => (matched o mem).2
    intro d mem f inside id isId
    rw [List.mem_singleton.mp mem] at inside
    rw [List.mem_singleton.mp mem]
    cases List.mem_singleton.mp inside
    cases isId
    exact unshared
  rw [asOnFirst]
  decide

/-- The global filter of the same number. -/
def globalWarning : Filter :=
  warning.withFlags { warning.flags with isGlobal := true }

/-- A warning of a local filter lets an edit of another page pass the warning of the global filter
of its number. -/
theorem warnings_merge :
    let first : Episode := ⟨edited warning "A" "Main-global", .opened 0⟩
    let second : Episode := ⟨edited globalWarning "A" "Main", first.after⟩
    let alone : Episode := ⟨edited globalWarning "A" "Main", .opened 0⟩
    warnedFlag "Main-global" ⟨false, 7⟩ = warnedFlag "Main" ⟨true, 7⟩ ∧
      second.result.vetoed = false ∧ alone.result.vetoed = true := by
  decide +kernel

/-! ## Throttles over histories -/

theorem answer_of_throttle {e : Episode} {c : Consequence} {t : Throttle}
    (isThrottle : c.measure = .throttle t) :
    e.answer c = some (isReached e.occasion.settings t c.subject e.scene.platform) := by
  rcases c with ⟨s, measure, suppresses⟩
  cases isThrottle
  have asked : ((⟨s, .throttle t, suppresses⟩ : Consequence).asksToSuppress Ledger.platform
      e.occasion.settings).run.run e.scene =
        (.ok (isReached e.occasion.settings t s e.scene.platform), e.scene) :=
    Throttle.run_isEngaged_ledger _ _ _
  rw [Episode.answer, Consequence.answerAt, asked]
  rfl

/-- A throttle that is executed was accepted. -/
theorem isAccepted_of_mem_pending {e : Episode} {c : Consequence} (isPending : c ∈ e.pending)
    {t : Throttle} (isThrottle : c.measure = .throttle t) : t.IsAccepted := by
  obtain ⟨f, -, inside⟩ := mem_chosen isPending
  obtain ⟨d, isBuilt, -, measure⟩ := mem_remaining inside
  rcases builtFor_cases e.occasion.settings e.occasion.source e.occasion.action f with
    nothing | ⟨id, actions, -, built⟩
  · rw [nothing] at isBuilt
    cases isBuilt
  · rw [built] at isBuilt
    obtain ⟨params, -, build⟩ := exists_of_mem_buildAll isBuilt
    obtain ⟨m, read, same⟩ := Consequence.exists_of_build build
    have isRead : m = .throttle t := by
      rw [← isThrottle, ← measure, same]
    rw [isRead] at read
    have named : d.name = "throttle" := (Measure.of_ofAction read).1.symm
    rw [named] at read
    refine ⟨params, ?_⟩
    have throttles : (Throttle.ofParams params).map Measure.throttle = .ok (.throttle t) := read
    cases accepts : Throttle.ofParams params with
    | error fault =>
        rw [accepts] at throttles
        cases throttles
    | ok u =>
        rw [accepts] at throttles
        cases throttles
        rfl

/-- What changes a counter of a throttle is a throttle that has its key. -/
theorem exists_throttle_of_counterKeys {settings settings' : Settings} {c : Consequence}
    {t : Throttle} {s : Subject} {group : String}
    (changed : t.key settings s group ∈ c.counterKeys settings') :
    ∃ u, c.measure = .throttle u ∧ ∃ other ∈ u.groups,
      u.key settings' c.subject other = t.key settings s group := by
  rcases c with ⟨r, measure, suppresses⟩
  cases measure with
  | throttle u => exact ⟨u, rfl, List.mem_map.mp changed⟩
  | blockPromotion seconds =>
      exact absurd (List.mem_singleton.mp changed) (Throttle.key_ne_promotionKey _ _ _ _ _)
  | _ => cases changed

/-- An episode counts a hit of a group: it executes the throttle of this name of the filter, for
an action with the same identifiers, as they are joined. -/
def Episode.Counts (settings : Settings) (t : Throttle) (s : Subject) (group : String)
    (e : Episode) : Prop :=
  ∃ c ∈ e.pending, ∃ u, c.measure = .throttle u ∧ group ∈ u.groups ∧
    c.subject.filter = s.filter ∧ u.id = t.id ∧
    Throttle.joined e.occasion.settings c.subject.action group =
      Throttle.joined settings s.action group

/-- The messages whose digests are parts of the keys that an episode counts under. -/
def Episode.messages (e : Episode) : Set (List UInt8) :=
  { message | ∃ c ∈ e.pending, ∃ t, c.measure = .throttle t ∧
    message ∈ t.messages e.occasion.settings c.subject }

section

variable {settings : Settings} {known : Set (List UInt8)}
  (collisionFree : Set.InjOn Digest.sha256 known) {t : Throttle} (accepted : t.IsAccepted)
  {s : Subject} (inKnown : t.messages settings s ⊆ known)
include collisionFree accepted inKnown

/-- An episode changes a counter of a group only if it counts a hit of the group. -/
theorem find?_counters_of_not_counts {e : Episode}
    (distinct : (e.occasion.matched.filterMap Filter.id).Nodup)
    (episodeKnown : e.messages ⊆ known) {group : String} (isGroup : group ∈ t.groups)
    (other : ¬ e.Counts settings t s group) :
    e.after.counters.find? (t.key settings s group) =
      e.before.counters.find? (t.key settings s group) := by
  have untouched : ∀ c ∈ e.pending,
      c.Hidden (fun l => l.counters.find? (t.key settings s group)) e.occasion.settings := by
    intro c isPending
    refine Consequence.hidden_counter fun changed => ?_
    obtain ⟨u, isThrottle, same, isGroupToo, sameKey⟩ := exists_throttle_of_counterKeys changed
    have inKnownToo : u.messages e.occasion.settings c.subject ⊆ known := fun message inside =>
      episodeKnown ⟨c, isPending, u, isThrottle, inside⟩
    obtain ⟨filters, ids, rfl, identifiers⟩ :=
      (Throttle.key_eq_iff (isAccepted_of_mem_pending isPending isThrottle) accepted collisionFree
        inKnownToo inKnown isGroupToo isGroup).mp sameKey
    exact other ⟨c, isPending, u, isThrottle, isGroupToo, filters, ids, identifiers⟩
  exact Episode.view_after distinct (fun _ _ _ _ _ _ => rfl) untouched

end

/-- As long as digests do not collide, the keys of throttles tell the filter, the throttle, the
group and its identifiers as they are joined, and so, if no more than one of them has a comma,
the identifiers themselves.  In every history a throttle is engaged as if nothing had happened
before, as long as no hits were counted with the same joined identifiers. -/
theorem counters_separate {known : Set (List UInt8)}
    (collisionFree : Set.InjOn Digest.sha256 known) :
    (∀ t u : Throttle, t.IsAccepted → u.IsAccepted → ∀ settings settings' s r,
      t.messages settings s ⊆ known → u.messages settings' r ⊆ known →
      ∀ group ∈ t.groups, ∀ other ∈ u.groups,
        (t.key settings s group = u.key settings' r other ↔
          s.filter = r.filter ∧ t.id = u.id ∧ group = other ∧
            Throttle.joined settings s.action group = Throttle.joined settings' r.action other) ∧
        ∀ before part after, Throttle.parts group = before ++ part :: after →
          Throttle.Unmarked settings s.action (before ++ after) →
          Throttle.Unmarked settings' r.action (before ++ after) →
          (t.key settings s group = u.key settings' r other ↔
            s.filter = r.filter ∧ t.id = u.id ∧ group = other ∧ ∀ part ∈ Throttle.parts group,
              Throttle.identifier settings s.action part =
                Throttle.identifier settings' r.action part)) ∧
    ∀ start os, (∀ o ∈ os, (o.matched.filterMap Filter.id).Nodup) →
      ∀ earlier (e : Episode) later, history start os = earlier ++ e :: later →
      ∀ (c : Consequence) (t : Throttle), c.measure = .throttle t → t.IsAccepted →
      t.messages e.occasion.settings c.subject ⊆ known → (∀ d ∈ earlier, d.messages ⊆ known) →
      (∀ d ∈ earlier, ∀ group ∈ t.groups, ¬ d.Counts e.occasion.settings t c.subject group) →
      e.answer c = (⟨e.occasion, start⟩ : Episode).answer c := by
  constructor
  · intro t u accepted acceptedToo settings settings' s r inKnown inKnownToo group first other
      second
    have tells := Throttle.key_eq_iff accepted acceptedToo collisionFree inKnown inKnownToo first
      second
    refine ⟨tells, fun before part after split unmarked unmarkedToo => ?_⟩
    rw [tells]
    refine and_congr_right fun _ => and_congr_right fun _ => and_congr_right fun sameGroup => ?_
    rw [← sameGroup]
    exact Throttle.joined_eq_iff split unmarked unmarkedToo
  · intro start os distinct earlier e later split c t isThrottle accepted inKnown episodesKnown
      others
    have counters : ∀ key ∈ t.keys e.occasion.settings c.subject,
        e.before.counters.find? key = start.counters.find? key := by
      intro key isKey
      obtain ⟨group, isGroup, rfl⟩ := List.mem_map.mp isKey
      let key := t.key e.occasion.settings c.subject group
      exact view_before (fun l => l.counters.find? key) split fun d mem inside =>
        find?_counters_of_not_counts collisionFree accepted inKnown (distinct _ inside)
          (episodesKnown d mem) isGroup (others d mem group isGroup)
    have reached : isReached e.occasion.settings t c.subject e.scene.platform =
        isReached e.occasion.settings t c.subject
          (⟨e.occasion, start⟩ : Episode).scene.platform := by
      rw [isReached, isReached, Bool.eq_iff_iff, List.any_eq_true, List.any_eq_true]
      refine exists_congr fun key => and_congr_right fun isKey => ?_
      have sameCount : e.scene.platform.count? key =
          (⟨e.occasion, start⟩ : Episode).scene.platform.count? key := by
        change ((e.before.counters.find? key).filter _).map _ = _
        rw [counters key isKey]
        rfl
      rw [sameCount]
    rw [answer_of_throttle isThrottle, answer_of_throttle isThrottle, reached]

/-- A filter that has one hit of a user, by name, on a page. -/
def counting : Filter :=
  (Filter.ofRules 7 "true").withAction "throttle" ["edits", "1,60", "ip,page"]

/-- The throttle of the filter. -/
def countingThrottle : Throttle :=
  ⟨"edits", 1, 60, ["ip,page"]⟩

/-- Whom the throttle concerns. -/
def countedSubject (userName page : String) : Subject :=
  ⟨⟨false, 7⟩, "Filter 7", edit userName page⟩

/-- After a hit of one user another one is not throttled. -/
theorem counters_separate_users :
    let os := [edited counting "A" "Main", edited counting "B" "Main"]
    let first : Episode := ⟨edited counting "A" "Main", .opened 0⟩
    let second : Episode := ⟨edited counting "B" "Main", first.after⟩
    let c : Consequence := ⟨countedSubject "B" "Main", .throttle countingThrottle, none⟩
    history (.opened 0) os = [first] ++ second :: [] ∧
      countingThrottle.key {} (countedSubject "A" "Main") "ip,page" ≠
        countingThrottle.key {} (countedSubject "B" "Main") "ip,page" ∧
      second.answer c = some false := by
  intro os first second c
  let message (userName : String) :=
    Digest.terminated (Throttle.digested {} (countedSubject userName "Main") "ip,page")
  have differ : Digest.sha256 (message "A") ≠ Digest.sha256 (message "B") := by decide +kernel
  have collisionFree : Set.InjOn Digest.sha256 {message "A", message "B"} :=
    Set.injOn_pair.mpr fun same => absurd same differ
  have accepted : countingThrottle.IsAccepted := ⟨["edits", "1,60", "ip,page"], rfl⟩
  have inKnown : ∀ userName, userName = "A" ∨ userName = "B" →
      countingThrottle.messages {} (countedSubject userName "Main") ⊆
        {message "A", message "B"} := by
    rintro userName names _ ⟨group, isGroup, rfl⟩
    cases List.mem_singleton.mp isGroup
    rcases names with rfl | rfl
    · exact .inl rfl
    · exact .inr rfl
  have separate := counters_separate collisionFree
  have executed : first.pending =
      [⟨countedSubject "A" "Main", .throttle countingThrottle, some false⟩] := by decide +kernel
  refine ⟨rfl, ?keys, ?answer⟩
  case keys =>
    intro same
    have identifiers := ((separate.1 _ _ accepted accepted _ _ _ _ (inKnown _ (.inl rfl))
      (inKnown _ (.inr rfl)) "ip,page" List.mem_cons_self "ip,page" List.mem_cons_self).2
        [] .address [.page] (by decide +kernel) (by unfold Throttle.Unmarked; decide)
        (by unfold Throttle.Unmarked; decide)).mp same
    have names := identifiers.2.2.2 .address (by decide +kernel)
    revert names
    decide
  case answer =>
    have asOnFirst : second.answer c = (⟨second.occasion, .opened 0⟩ : Episode).answer c := by
      refine separate.2 (.opened 0) os ?distinct [first] second [] rfl c countingThrottle rfl
        accepted (inKnown _ (.inr rfl)) ?episodes ?others
      case distinct =>
        intro o mem
        rcases List.mem_pair.mp mem with rfl | rfl <;> decide
      case episodes =>
        rintro d mem message ⟨executedToo, isPending, t, isThrottle, inside⟩
        obtain rfl : d = first := List.mem_singleton.mp mem
        rw [executed] at isPending
        cases List.mem_singleton.mp isPending
        cases isThrottle
        exact inKnown _ (.inl rfl) inside
      case others =>
        rintro d mem group isGroup ⟨executedToo, isPending, t, isThrottle, -, -, -, same⟩
        obtain rfl : d = first := List.mem_singleton.mp mem
        rw [executed] at isPending
        cases List.mem_singleton.mp isPending
        cases List.mem_singleton.mp isGroup
        revert same
        decide +kernel
    rw [asOnFirst]
    decide +kernel

/-- A hit of a user on a page throttles another user on another page, when the names join to one
text. -/
theorem counters_merge :
    let first : Episode := ⟨edited counting "A" "B,C", .opened 0⟩
    let second : Episode := ⟨edited counting "A,B" "C", first.after⟩
    let alone : Episode := ⟨edited counting "A,B" "C", .opened 0⟩
    countingThrottle.key {} (countedSubject "A" "B,C") "ip,page" =
        countingThrottle.key {} (countedSubject "A,B" "C") "ip,page" ∧
      second.throttled ⟨false, 7⟩ = true ∧ alone.throttled ⟨false, 7⟩ = false := by
  intro first second alone
  have sameJoined : Throttle.joined {} (edit "A" "B,C") "ip,page" =
      Throttle.joined {} (edit "A,B" "C") "ip,page" := by decide +kernel
  refine ⟨Throttle.key_eq_of_joined_eq rfl rfl sameJoined, ?_⟩
  decide +kernel

end Execution

end EditGuard
