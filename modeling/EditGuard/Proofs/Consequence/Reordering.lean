import EditGuard.Proofs.Consequence.Bookkeeping
import EditGuard.Proofs.Consequence.Outcomes
import EditGuard.Proofs.Consequence.Protocol

/-!
# The order of the filters that matched

The consequences of the filters that matched are carried out in the same way in whichever order
these filters are given: the same consequences are executed in the same order, with the same
result and the same effects.  Only the entries of the log follow the order of the filters.
-/

namespace EditGuard.Execution

variable {settings : Settings} {source : FilterSource} {action : Action}
  {matched other : List Filter}

/-! ## What is executed -/

theorem survivors_perm (same : other.Perm matched) (answer : Consequence → Option Bool) :
    (survivors settings source action answer other).Perm
      (survivors settings source action answer matched) :=
  same.flatMap_right _

/-- Which block is placed does not depend on the order of the consequences. -/
theorem isPlaced_congr {cs ds : List Consequence} (same : ds.Perm cs) (c : Consequence) :
    IsPlaced ds c ↔ IsPlaced cs c := by
  refine forall_congr' fun key => imp_congr_right fun _ => ?_
  exact forall_congr' fun d => imp_congr_left same.mem_iff

/-- Of the filters that did not match nothing is executed. -/
theorem filter_chosen_of_notMem {answer : Consequence → Option Bool} {id : FilterId}
    (notMatched : ∀ f ∈ matched, f.id ≠ some id) :
    (chosen settings source action answer matched).filter (·.subject.filter == id) = [] := by
  rw [List.filter_eq_nil_iff]
  intro c mem ofFilter
  obtain ⟨f, inside, left⟩ := mem_chosen mem
  have isId := filter_of_mem_remaining left
  rw [beq_iff_eq.mp ofFilter] at isId
  exact notMatched f inside isId

/-- Items that may stand in either order are of one filter. -/
theorem filter_eq_of_notAfter {c d : Consequence} (first : NotAfter c d) (second : NotAfter d c) :
    c.subject.filter = d.subject.filter := by
  rcases first with less | ⟨same, least⟩
  · rcases second with less' | ⟨same', _⟩
    · omega
    · omega
  · rcases second with less' | ⟨_, least'⟩
    · omega
    · exact Std.LawfulEqCmp.eq_of_compare (Std.OrientedCmp.isLE_antisymm least least')

/-- The same consequences are executed in the same order. -/
theorem chosen_of_perm (same : other.Perm matched) (distinct : (matched.filterMap Filter.id).Nodup)
    (answer : Consequence → Option Bool) :
    chosen settings source action answer other = chosen settings source action answer matched := by
  have distinctToo : (other.filterMap Filter.id).Nodup := (same.filterMap _).nodup_iff.mpr distinct
  refine eq_of_pairwise_of_filter_eq (fun c : Consequence => c.subject.filter)
    (fun _ _ => filter_eq_of_notAfter) (pairwise_inOrder _) (pairwise_inOrder _) fun id => ?_
  by_cases isMatched : ∃ f ∈ matched, f.id = some id
  · obtain ⟨f, mem, isId⟩ := isMatched
    rw [filter_chosen distinct mem isId, filter_chosen distinctToo (same.mem_iff.mpr mem) isId]
    refine List.filter_congr fun c _ => decide_eq_decide.mpr ?_
    exact isPlaced_congr (survivors_perm same answer) c
  · have notMatched : ∀ f ∈ matched, f.id ≠ some id :=
      fun f mem isId => isMatched ⟨f, mem, isId⟩
    rw [filter_chosen_of_notMem notMatched,
      filter_chosen_of_notMem fun f mem => notMatched f (same.mem_iff.mp mem)]

/-! ## What is logged -/

/-- The entries for the hits of filters, in their order. -/
def auditEntries (action : Action) (dump : Option String) (r : ExecutionResult)
    (fs : List Filter) : List AuditEntry :=
  fs.filterMap fun f => f.id.map fun id => auditEntry action dump r id f.name

/-- The numbers of hits after one more hit of each filter. -/
def countedHits (hits : Dictionary FilterId Nat) (fs : List Filter) : Dictionary FilterId Nat :=
  (fs.filterMap Filter.id).foldl (fun hits id => hits.insert id ((hits.find? id).getD 0 + 1)) hits

theorem countedHits_of_perm (same : other.Perm matched) (hits : Dictionary FilterId Nat) :
    countedHits hits other = countedHits hits matched := by
  refine (same.filterMap Filter.id).foldl_eq' ?_ hits
  intro first _ second _ hits
  refine Dictionary.eq_of_find? fun id => ?_
  simp only [Dictionary.find?_insert]
  by_cases equal : first = second
  · rw [equal]
  · by_cases isFirst : id = first
    · simp [isFirst, equal]
    · by_cases isSecond : id = second
      · simp [isSecond, Ne.symm equal]
      · simp [isFirst, isSecond]

/-- Logging hits adds an entry for each filter to the log, and counts its hit. -/
theorem run_logHits_ledger (action : Action) (dump : Option String) (r : ExecutionResult)
    (fs : List Filter) (scene : Scene Ledger) :
    (logHits Ledger.platform action dump r fs).run scene =
      ((), { scene with platform := { scene.platform with
        audit := scene.platform.audit ++ auditEntries action dump r fs
        hits := countedHits scene.platform.hits fs } }) := by
  induction fs generalizing scene with
  | nil =>
      rw [auditEntries, List.filterMap_nil, List.append_nil]
      rfl
  | cons f fs ih =>
      rw [logHits, auditEntries, countedHits, List.filterMap_cons, List.filterMap_cons]
      cases f.id with
      | none => exact ih scene
      | some id =>
          let logged : Scene Ledger := { scene with platform := { scene.platform with
            audit := scene.platform.audit ++ [auditEntry action dump r id f.name]
            hits := scene.platform.hits.insert id (scene.platform.hitCount id + 1) } }
          have rest := ih logged
          rw [List.append_assoc] at rest
          exact rest

/-- Carrying out consequences logs nothing. -/
theorem audit_carryOutAll (cs : List Consequence) (scene : Scene Ledger) :
    ((carryOutAll Ledger.platform settings .nothing cs).run scene).2.platform.audit =
      scene.platform.audit := by
  rw [run_carryOutAll]
  refine view_sceneAfter fun c _ => ?_
  exact Consequence.view_carryOut (fun _ _ _ _ => rfl) (Consequence.hidden_audit settings c)

/-! ## A run in another order -/

/-- A run of filters that executes consequences in their order, and after which there are this
result, this ledger but for its log, and these tags. -/
structure RunsAs (settings : Settings) (source : FilterSource) (action : Action)
    (dump : Option String) (scene : Scene Ledger) (executed : List Consequence)
    (result : ExecutionResult) (after : Ledger) (tags : Tags) (fs : List Filter) : Prop where
  /-- Asking the consequences has no effect, and leaves those that are executed. -/
  executes : (pending Ledger.platform settings source action fs).run scene = (executed, scene)
  /-- The log is continued by the hits of the filters in their order. -/
  finishes : (run Ledger.platform settings source action fs dump).run scene =
    (result, ⟨{ after with
      audit := scene.platform.audit ++ auditEntries action dump result fs }, tags⟩)

/-- In whichever order filters with distinct identities are given, the same consequences are
executed in the same order, with the same result, and leave the same tags and the same ledger
but for its log.  Of this only the order of the new entries follows that of the filters. -/
theorem run_reordered (settings : Settings) (source : FilterSource) (action : Action)
    {matched : List Filter} (distinct : (matched.filterMap Filter.id).Nodup)
    (dump : Option String) (scene : Scene Ledger) :
    ∃ executed result after tags, ∀ fs, fs.Perm matched →
      RunsAs settings source action dump scene executed result after tags fs := by
  let executed := chosen settings source action
    (Consequence.answerAt Ledger.platform settings scene) matched
  let carried := (carryOutAll Ledger.platform settings .nothing executed).run scene
  refine ⟨executed, carried.1,
    { carried.2.platform with hits := countedHits carried.2.platform.hits matched },
    carried.2.tags, fun fs same => ?_⟩
  have distinctToo : (fs.filterMap Filter.id).Nodup := (same.filterMap _).nodup_iff.mpr distinct
  have asked : (pending Ledger.platform settings source action fs).run scene =
      (executed, scene) := by
    rw [run_pending_of_readsOnly Ledger.readsOnly_platform distinctToo scene,
      chosen_of_perm same distinct]
  have keepsLog : carried.2.platform.audit = scene.platform.audit :=
    audit_carryOutAll executed scene
  constructor
  case executes => exact asked
  case finishes =>
    have ran : (run Ledger.platform settings source action fs dump).run scene =
        (carried.1, ((logHits Ledger.platform action dump carried.1 fs).run carried.2).2) := by
      rw [run_eq, StateT.run_bind, asked]
      rfl
    rw [ran, run_logHits_ledger, keepsLog, countedHits_of_perm same]

/-- Two filters with blocks, one of which also takes two measures of the platform's own. -/
theorem run_reordered_blocks :
    let weekly := (((Filter.ofRules 2 "true").withAction "block" ["", "1 week", "1 week"])
      |>.withAction "notify" []).withAction "archive" []
    let monthly := (Filter.ofRules 1 "true").withAction "block" ["", "1 month", "1 month"]
    let source := FilterStore.toSource ⟨[], .empty⟩
    let scene : Scene Ledger := ⟨.opened 0, .empty⟩
    ([weekly, monthly].filterMap Filter.id).Nodup ∧ ∃ executed result after tags,
      RunsAs {} source default none scene executed result after tags [weekly, monthly] ∧
      RunsAs {} source default none scene executed result after tags [monthly, weekly] := by
  intro weekly monthly source scene
  have distinct : ([weekly, monthly].filterMap Filter.id).Nodup := by decide
  obtain ⟨executed, result, after, tags, runs⟩ :=
    run_reordered {} source default distinct none scene
  exact ⟨distinct, executed, result, after, tags, runs _ (.refl _), runs _ (.swap ..)⟩

end EditGuard.Execution
