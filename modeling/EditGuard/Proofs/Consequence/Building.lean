import EditGuard.Proofs.Consequence.Suppression
import EditGuard.Proofs.Dictionary
import EditGuard.Proofs.Ordering

/-!
# The consequences of actions

A filter has at most one action of a name, so it has at most one throttle and one
warning.  These come first when its consequences are built.
-/

namespace EditGuard

/-! ## Names and kinds -/

/-- Every kind but the custom one has a single name. -/
theorem ConsequenceKind.name_of_ofName {name : String} {k : ConsequenceKind}
    (named : ofName name = k) :
    match k with
    | .throttle => name = "throttle"
    | .warn => name = "warn"
    | .disallow => name = "disallow"
    | .block => name = "block"
    | .rangeBlock => name = "rangeblock"
    | .degroup => name = "degroup"
    | .blockPromotion => name = "blockautopromote"
    | .tag => name = "tag"
    | .custom => True := by
  unfold ofName at named
  split at named <;> cases named <;> trivial

namespace Measure

theorem exists_of_readBlock {a : Action} {params : List String} {m : Measure}
    (read : readBlock a params = .ok m) : ∃ seconds blocksTalk, m = .block seconds blocksTalk := by
  unfold readBlock at read
  split at read
  · cases read
    exact ⟨_, _, rfl⟩
  · obtain ⟨seconds, _, made⟩ := exists_of_bind_eq_ok read
    cases made
    exact ⟨_, _, rfl⟩
  · cases read

theorem exists_of_readPromotion {params : List String} {m : Measure}
    (read : readPromotion params = .ok m) : ∃ seconds, m = .blockPromotion seconds := by
  unfold readPromotion at read
  split at read
  · cases read
    exact ⟨_, rfl⟩
  · split at read
    · cases read
      exact ⟨_, rfl⟩
    · obtain ⟨n, _, checked⟩ := exists_of_bind_eq_ok read
      generalize n * 86400 = seconds at checked
      split at checked
      · cases checked
      · cases checked
        exact ⟨_, rfl⟩

/-- A measure has the name of the action that it stands for, and is of its kind. -/
theorem of_ofAction {name : String} {params : List String} {a : Action} {m : Measure}
    (built : ofAction name params a = .ok m) : m.name = name ∧ m.kind = .ofName name := by
  unfold ofAction at built
  split at built
  case h_1 isThrottle =>
    cases read : Throttle.ofParams params with
    | ok t =>
        rw [read] at built
        cases built
        exact ⟨(ConsequenceKind.name_of_ofName isThrottle).symm, isThrottle.symm⟩
    | error f =>
        rw [read] at built
        cases built
  case h_4 isBlock =>
    obtain ⟨seconds, blocksTalk, rfl⟩ := exists_of_readBlock built
    exact ⟨(ConsequenceKind.name_of_ofName isBlock).symm, isBlock.symm⟩
  case h_7 isPromotion =>
    obtain ⟨seconds, rfl⟩ := exists_of_readPromotion built
    exact ⟨(ConsequenceKind.name_of_ofName isPromotion).symm, isPromotion.symm⟩
  case h_9 isCustom =>
    cases built
    exact ⟨rfl, isCustom.symm⟩
  all_goals
    rename_i named
    cases built
    exact ⟨(ConsequenceKind.name_of_ofName named).symm, named.symm⟩

end Measure

/-- The filter and the name under which a consequence is reported. -/
def Consequence.label (c : Consequence) : FilterId × String :=
  (c.subject.filter, c.name)

/-- Throttles, warnings and blocks have the names of their kinds. -/
theorem Consequence.name_of_kind {c : Consequence} {kind : ConsequenceKind}
    (isKind : c.kind = kind) :
    match kind with
    | .throttle => c.name = "throttle"
    | .warn => c.name = "warn"
    | .block => c.name = "block"
    | _ => True := by
  subst isKind
  rcases c with ⟨subject, measure, suppresses⟩
  cases measure <;> first | rfl | trivial

/-- A consequence that was built is a measure for its action against its subject, and was not
asked yet. -/
theorem Consequence.exists_of_build {name : String} {params : List String} {s : Subject}
    {c : Consequence} (built : build name params s = .ok c) :
    ∃ m, Measure.ofAction name params s.action = .ok m ∧ c = ⟨s, m, none⟩ := by
  unfold build at built
  cases read : Measure.ofAction name params s.action with
  | ok m =>
      rw [read] at built
      cases built
      exact ⟨m, rfl, rfl⟩
  | error f =>
      rw [read] at built
      cases built

theorem Consequence.of_build {name : String} {params : List String} {s : Subject}
    {c : Consequence} (built : build name params s = .ok c) :
    c.subject = s ∧ c.name = name ∧ c.suppresses = none := by
  obtain ⟨m, read, rfl⟩ := exists_of_build built
  exact ⟨rfl, (Measure.of_ofAction read).1, rfl⟩

theorem Consequence.kind_of_build {name : String} {params : List String} {s : Subject}
    {c : Consequence} (built : build name params s = .ok c) : c.kind = .ofName name := by
  obtain ⟨m, read, rfl⟩ := exists_of_build built
  exact (Measure.of_ofAction read).2

namespace Execution

/-! ## The consequences of one filter -/

/-- The consequences of actions in the order of the names. -/
def buildEach (actions : Actions) (s : Subject) : List Consequence :=
  actions.entries.filterMap fun a => (Consequence.build a.1 a.2 s).toOption

theorem nodup_names_buildEach (actions : Actions) (s : Subject) :
    ((buildEach actions s).map Consequence.name).Nodup := by
  refine (Dictionary.nodup_keys actions).sublist ?_
  rw [Dictionary.keys, buildEach]
  induction actions.entries with
  | nil => exact .slnil
  | cons a rest ih =>
      rw [List.filterMap_cons, List.map_cons]
      cases built : Consequence.build a.1 a.2 s with
      | ok c =>
          have named := (Consequence.of_build built).2.1
          simp only [Except.toOption, List.map_cons, named]
          exact ih.cons_cons a.1
      | error f => exact ih.cons a.1

theorem buildAll_eq (actions : Actions) (s : Subject) :
    buildAll actions s = (buildEach actions s).mergeSort fun c d => c.priority ≤ d.priority :=
  rfl

/-- A consequence that is built stands for an action of its name. -/
theorem exists_of_mem_buildAll {actions : Actions} {s : Subject} {c : Consequence}
    (mem : c ∈ buildAll actions s) :
    ∃ params, actions.find? c.name = some params ∧ Consequence.build c.name params s = .ok c := by
  rw [buildAll_eq, List.mem_mergeSort] at mem
  obtain ⟨⟨name, params⟩, declared, isBuilt⟩ := List.mem_filterMap.mp mem
  cases built : Consequence.build name params s with
  | ok d =>
      rw [built] at isBuilt
      cases isBuilt
      rw [(Consequence.of_build built).2.1]
      exact ⟨params, Dictionary.mem_entries_iff.mp declared, built⟩
  | error f =>
      rw [built] at isBuilt
      cases isBuilt

theorem mem_buildAll {actions : Actions} {s : Subject} {c : Consequence}
    (mem : c ∈ buildAll actions s) : c.subject = s ∧ c.suppresses = none := by
  obtain ⟨params, -, built⟩ := exists_of_mem_buildAll mem
  obtain ⟨subject, -, suppresses⟩ := Consequence.of_build built
  exact ⟨subject, suppresses⟩

theorem ordered_buildAll (actions : Actions) (s : Subject) :
    (buildAll actions s).Pairwise fun c d => c.priority ≤ d.priority := by
  have total : ∀ c d : Consequence,
      (decide (c.priority ≤ d.priority) || decide (d.priority ≤ c.priority)) = true := by
    intro c d
    rw [Bool.or_eq_true, decide_eq_true_eq, decide_eq_true_eq]
    exact Nat.le_total c.priority d.priority
  have trans : ∀ b c d : Consequence, decide (b.priority ≤ c.priority) = true →
      decide (c.priority ≤ d.priority) = true → decide (b.priority ≤ d.priority) = true := by
    intro b c d first second
    exact decide_eq_true (Nat.le_trans (of_decide_eq_true first) (of_decide_eq_true second))
  exact (List.pairwise_mergeSort trans total (buildEach actions s)).imp of_decide_eq_true

theorem nodup_names_buildAll (actions : Actions) (s : Subject) :
    ((buildAll actions s).map Consequence.name).Nodup :=
  ((List.mergeSort_perm _ _).map _).nodup_iff.mpr (nodup_names_buildEach actions s)

/-- Of a kind that has a name of its own there is at most one consequence. -/
theorem exists_filter_kind {actions : Actions} {s : Subject} {k : ConsequenceKind} {name : String}
    (named : ∀ c : Consequence, c.kind = k → c.name = name) :
    ∃ c? : Option Consequence, (buildAll actions s).filter (·.kind == k) = c?.toList := by
  refine exists_toList_of_keys (k := name)
    ((nodup_names_buildAll actions s).sublist (List.filter_sublist.map Consequence.name)) ?_
  intro c mem
  exact named c (beq_iff_eq.mp (List.mem_filter.mp mem).2)

theorem isDisabler_iff (k : ConsequenceKind) : k.isDisabler = true ↔ k.priority ≤ 5 := by
  cases k <;> decide

theorem eq_throttle_iff (k : ConsequenceKind) : (k == .throttle) = true ↔ k.priority ≤ 0 := by
  cases k <;> decide

/-- The throttle and the warning come first. -/
theorem exists_arranged (actions : Actions) (s : Subject) :
    ∃ throttle? warn? others, Arranged throttle? warn? others ∧
      buildAll actions s = arrange throttle? warn? others := by
  let built := buildAll actions s
  have ordered : built.Pairwise fun c d => c.priority ≤ d.priority := ordered_buildAll actions s
  obtain ⟨throttle?, throttles⟩ : ∃ c? : Option Consequence,
      built.filter (·.kind == .throttle) = c?.toList :=
    exists_filter_kind fun _ isThrottle => Consequence.name_of_kind isThrottle
  obtain ⟨warn?, warns⟩ : ∃ c? : Option Consequence,
      built.filter (·.kind == .warn) = c?.toList :=
    exists_filter_kind fun _ isWarn => Consequence.name_of_kind isWarn
  have disablersFirst : built =
      built.filter (·.kind.isDisabler) ++ built.filter fun c => !c.kind.isDisabler :=
    eq_filter_append_filter ordered fun c d least isDisabler =>
      (isDisabler_iff c.kind).mpr (Nat.le_trans least ((isDisabler_iff d.kind).mp isDisabler))
  have throttlesFirst : built.filter (·.kind.isDisabler) =
      (built.filter (·.kind.isDisabler)).filter (·.kind == .throttle) ++
        (built.filter (·.kind.isDisabler)).filter fun c => !(c.kind == .throttle) :=
    eq_filter_append_filter (ordered.filter (·.kind.isDisabler)) fun c d least isThrottle =>
      (eq_throttle_iff c.kind).mpr (Nat.le_trans least ((eq_throttle_iff d.kind).mp isThrottle))
  have throttleKind : ∀ c : Consequence,
      (c.kind == .throttle && c.kind.isDisabler) = (c.kind == .throttle) := by
    intro c
    cases c.kind <;> rfl
  have warnKind : ∀ c : Consequence,
      (!(c.kind == .throttle) && c.kind.isDisabler) = (c.kind == .warn) := by
    intro c
    cases c.kind <;> rfl
  simp only [List.filter_filter, throttleKind, warnKind, throttles, warns] at throttlesFirst
  refine ⟨throttle?, warn?, built.filter fun c => !c.kind.isDisabler, ⟨?_, ?_, ?_⟩, ?_⟩
  · intro c mem
    have inside : c ∈ built.filter (·.kind == .throttle) := by
      rw [throttles]
      exact Option.mem_toList.mpr mem
    exact beq_iff_eq.mp (List.mem_filter.mp inside).2
  · intro c mem
    have inside : c ∈ built.filter (·.kind == .warn) := by
      rw [warns]
      exact Option.mem_toList.mpr mem
    exact beq_iff_eq.mp (List.mem_filter.mp inside).2
  · intro c mem
    exact (Bool.not_eq_true' _).mp (List.mem_filter.mp mem).2
  · rw [throttlesFirst, List.append_assoc] at disablersFirst
    exact disablersFirst

end Execution

end EditGuard
