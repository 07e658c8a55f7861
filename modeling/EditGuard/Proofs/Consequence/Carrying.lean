import EditGuard.Proofs.Consequence.Recording
import EditGuard.Proofs.Ordering

/-!
# Carrying consequences out

Consequences are carried out by priority and then by filter.  Whatever is carried out
changes the platform and asks it nothing; it touches no flag but that of a warning, and
it fails only as the platform does.
-/

namespace EditGuard

variable {σ α β : Type}

namespace Execution

/-! ## The order in which they are carried out -/

/-- Less priority, or the same priority and a filter that does not come later. -/
def NotAfter (c d : Consequence) : Prop :=
  c.priority < d.priority ∨
    c.priority = d.priority ∧ (compare c.subject.filter d.subject.filter).isLE = true

theorem isLE_iff_notAfter (c d : Consequence) :
    ((compare c.priority d.priority).then
      (compare c.subject.filter d.subject.filter)).isLE = true ↔ NotAfter c d := by
  rw [NotAfter]
  cases order : compare c.priority d.priority with
  | lt =>
      have less := Nat.compare_eq_lt.mp order
      exact iff_of_true rfl (.inl less)
  | eq =>
      have same := Nat.compare_eq_eq.mp order
      rw [same]
      simp
  | gt =>
      have more := Nat.compare_eq_gt.mp order
      apply iff_of_false Bool.false_ne_true
      rintro (less | ⟨same, _⟩)
      · omega
      · omega

theorem inOrder_trans (b c d : Consequence) :
    ((compare b.priority c.priority).then
      (compare b.subject.filter c.subject.filter)).isLE = true →
    ((compare c.priority d.priority).then
      (compare c.subject.filter d.subject.filter)).isLE = true →
    ((compare b.priority d.priority).then
      (compare b.subject.filter d.subject.filter)).isLE = true := by
  have lex : Std.TransCmp (compareLex (compareOn Consequence.priority)
      (compareOn fun c : Consequence => c.subject.filter)) := inferInstance
  exact lex.isLE_trans

theorem inOrder_total (c d : Consequence) :
    (((compare c.priority d.priority).then
        (compare c.subject.filter d.subject.filter)).isLE ||
      ((compare d.priority c.priority).then
        (compare d.subject.filter c.subject.filter)).isLE) = true :=
  @isLE_or_isLE Consequence (compareLex (compareOn Consequence.priority)
    (compareOn fun c : Consequence => c.subject.filter)) inferInstance c d

theorem pairwise_inOrder (cs : List Consequence) : (inOrder cs).Pairwise NotAfter :=
  (List.pairwise_mergeSort inOrder_trans inOrder_total cs).imp (isLE_iff_notAfter _ _).mp

/-- The consequences of one filter are carried out in the order in which they are built. -/
theorem filter_inOrder {cs : List Consequence} {id : FilterId}
    (ordered : (cs.filter (·.subject.filter == id)).Pairwise fun c d => c.priority ≤ d.priority) :
    (inOrder cs).filter (·.subject.filter == id) = cs.filter (·.subject.filter == id) := by
  apply filter_mergeSort inOrder_trans inOrder_total
  refine List.Pairwise.imp_of_mem ?_ ordered
  intro c d first second least
  have same : c.subject.filter = d.subject.filter := by
    rw [beq_iff_eq.mp (List.mem_filter.mp first).2, beq_iff_eq.mp (List.mem_filter.mp second).2]
  rw [isLE_iff_notAfter, NotAfter, same]
  rcases Nat.lt_or_eq_of_le least with less | same
  · exact .inl less
  · refine .inr ⟨same, ?_⟩
    have self : compare d.subject.filter d.subject.filter = .eq := Std.ReflCmp.compare_self
    rw [self]
    rfl

end Execution

/-! ## The calls of consequences -/

/-- The calls that a consequence may make when it is carried out: it asks and logs nothing,
and it is about no flag but that of its warning. -/
def Consequence.MayDo (c : Consequence) (call : PlatformCall) : Prop :=
  call.isQuestion = false ∧ call.isLogging = false ∧
    ∀ key, call.flag? = some key → c.kind = .warn ∧ key = Consequence.warnedKey c.subject

/-- A call that is about no flag. -/
theorem Consequence.mayDo_of_none {c : Consequence} {call : PlatformCall}
    (acts : call.isQuestion = false) (logsNothing : call.isLogging = false)
    (noFlag : call.flag? = none) : c.MayDo call := by
  refine ⟨acts, logsNothing, fun key concerns => ?_⟩
  rw [noFlag] at concerns
  cases concerns

theorem Throttle.countHits_records (p : Platform σ) (seconds : Nat) (keys : List String)
    {allowed : PlatformCall → Prop} (may : ∀ key, allowed (.increment key seconds))
    (scene : Scene σ) :
    Records scene allowed (countHits p seconds keys).run
      (countHits p.recorded seconds keys).run := by
  induction keys generalizing scene with
  | nil => exact .pure _
  | cons key keys ih =>
      rw [countHits, countHits]
      refine .operation ?_ fun _ _ => ih _
      exact .operation (.lift (may key) (p.increment key seconds)) fun _ _ => .pure _

theorem Consequence.carryOut_records (p : Platform σ) (settings : Settings) (c : Consequence)
    (scene : Scene σ) :
    Records scene c.MayDo (c.carryOut p settings).run (c.carryOut p.recorded settings).run := by
  rcases c with ⟨s, measure, suppresses⟩
  cases measure with
  | throttle t =>
      cases suppresses with
      | none => exact .nothing fun _ => rfl
      | some engaged =>
          refine .operation (Throttle.countHits_records p t.seconds _ ?_ scene) fun _ _ => .pure _
          exact fun _ => mayDo_of_none rfl rfl rfl
  | warn message =>
      cases suppresses with
      | none => exact .nothing fun _ => rfl
      | some warns =>
          cases warns with
          | true =>
              refine .operation (.liftTotal ?_ (p.setFlag (warnedKey s))) fun _ _ => .pure _
              refine ⟨rfl, rfl, ?_⟩
              rintro key ⟨⟩
              exact ⟨rfl, rfl⟩
          | false =>
              refine .operation (.liftTotal ?_ (p.clearFlag (warnedKey s))) fun _ _ => .pure _
              refine ⟨rfl, rfl, ?_⟩
              rintro key ⟨⟩
              exact ⟨rfl, rfl⟩
  | disallow message => exact .pure _
  | block seconds blocksTalk => exact .lift (mayDo_of_none rfl rfl rfl) (p.block _)
  | rangeBlock =>
      unfold carryOut
      simp only
      cases s.action.address with
      | none => exact .pure _
      | some address => exact .lift (mayDo_of_none rfl rfl rfl) (p.block _)
  | degroup =>
      unfold carryOut
      simp only
      split
      · exact .lift (mayDo_of_none rfl rfl rfl) (p.degroup s)
      · exact .pure _
  | blockPromotion seconds =>
      unfold carryOut
      simp only
      split
      · refine .operation (.lift (mayDo_of_none rfl rfl rfl) (p.setCount _ _ _)) fun _ _ => .pure _
      · exact .pure _
  | tag tags => exact .nothing fun _ => rfl
  | custom name params => exact .lift (mayDo_of_none rfl rfl rfl) (p.custom name params s)

namespace Execution

theorem carryOutAll_records (p : Platform σ) (settings : Settings) (r : ExecutionResult)
    (cs : List Consequence) (scene : Scene σ) :
    Records scene (fun call => ∃ c ∈ cs, c.MayDo call) (carryOutAll p settings r cs)
      (carryOutAll p.recorded settings r cs) := by
  induction cs generalizing r scene with
  | nil => exact .pure r
  | cons c cs ih =>
      rw [carryOutAll, carryOutAll]
      refine .bind ((Consequence.carryOut_records p settings c scene).mono ?_) ((ih _ _).mono ?_)
      · intro call may
        exact ⟨c, List.mem_cons_self, may⟩
      · rintro call ⟨d, mem, may⟩
        exact ⟨d, List.mem_cons_of_mem _ mem, may⟩

/-- An operation whose outcome does not matter is recorded all the same. -/
theorem run_discard_recorded (call : PlatformCall) (op : Operation σ α) (scene : Scene σ)
    (log : List PlatformCall) :
    (discard (Scene.lift (Platform.record call op)).run).run (scene.withRecord log) =
      ((), ((discard (Scene.lift op).run).run scene).2.withRecord (log ++ [call])) := by
  rw [run_discard, run_discard, Scene.run_lift, Scene.run_lift, Scene.withRecord,
    Platform.run_record]
  rfl

/-- The calls by which the hit of a filter is logged and counted. -/
def hitCalls (action : Action) (dump : Option String) (r : ExecutionResult) (f : Filter) :
    List PlatformCall :=
  match f.id with
  | none => []
  | some id => [.logHit (auditEntry action dump r id f.name), .countHit id]

/-- The hits are logged in the order of the filters, whether or not the platform can. -/
theorem run_logHits_recorded (p : Platform σ) (action : Action) (dump : Option String)
    (r : ExecutionResult) (fs : List Filter) (scene : Scene σ) (log : List PlatformCall) :
    (logHits p.recorded action dump r fs).run (scene.withRecord log) =
      ((), ((logHits p action dump r fs).run scene).2.withRecord
        (log ++ fs.flatMap (hitCalls action dump r))) := by
  induction fs generalizing scene log with
  | nil =>
      rw [List.flatMap_nil, List.append_nil]
      rfl
  | cons f fs ih =>
      rw [logHits, logHits, List.flatMap_cons, hitCalls]
      cases f.id with
      | none => exact ih scene log
      | some id =>
          have first := run_discard_recorded (.logHit (auditEntry action dump r id f.name))
            (p.logHit (auditEntry action dump r id f.name)) scene log
          have second := run_discard_recorded (.countHit id) (p.countHit id)
            ((discard (Scene.lift (p.logHit (auditEntry action dump r id f.name))).run).run scene).2
            (log ++ [.logHit (auditEntry action dump r id f.name)])
          change ((logHits p.recorded action dump r fs).run
            ((discard (Scene.lift (Platform.record (.countHit id) (p.countHit id))).run).run
              ((discard (Scene.lift (Platform.record _ (p.logHit _))).run).run
                (scene.withRecord log)).2).2) = _
          rw [first, second, ih, List.append_assoc, List.append_assoc]
          rfl

theorem logHits_records (p : Platform σ) (action : Action) (dump : Option String)
    (r : ExecutionResult) (fs : List Filter) (scene : Scene σ) :
    Records scene (fun call => call.isQuestion = false ∧ call.flag? = none)
      (logHits p action dump r fs) (logHits p.recorded action dump r fs) := by
  intro log
  refine ⟨fs.flatMap (hitCalls action dump r), ?_, run_logHits_recorded p action dump r fs scene log⟩
  intro call mem
  obtain ⟨f, -, inside⟩ := List.mem_flatMap.mp mem
  unfold hitCalls at inside
  split at inside
  · cases inside
  · rcases List.mem_pair.mp inside with rfl | rfl
    · exact ⟨rfl, rfl⟩
    · exact ⟨rfl, rfl⟩

/-! ## Failures -/

end Execution

/-- The faults with which the operations of a platform fail that carry consequences out. -/
inductive Platform.Fails (p : Platform σ) : Fault → Prop
  | increment {key : String} {seconds : Nat} {s : σ} {f : Fault}
      (failed : ((p.increment key seconds).run.run s).1 = .error f) : p.Fails f
  | setCount {key : String} {value : Int} {seconds : Nat} {s : σ} {f : Fault}
      (failed : ((p.setCount key value seconds).run.run s).1 = .error f) : p.Fails f
  | block {request : BlockRequest} {s : σ} {f : Fault}
      (failed : ((p.block request).run.run s).1 = .error f) : p.Fails f
  | degroup {subject : Subject} {s : σ} {f : Fault}
      (failed : ((p.degroup subject).run.run s).1 = .error f) : p.Fails f
  | custom {name : String} {params : List String} {subject : Subject} {s : σ} {f : Fault}
      (failed : ((p.custom name params subject).run.run s).1 = .error f) : p.Fails f

/-- Whatever a computation fails with is a fault of the platform. -/
def FailsAs (p : Platform σ) (x : Operation (Scene σ) α) : Prop :=
  ∀ scene f, (x.run.run scene).1 = .error f → p.Fails f

namespace FailsAs

variable {p : Platform σ}

theorem pure (a : α) : FailsAs p (pure a) := by
  rintro scene f ⟨⟩

theorem bind {x : Operation (Scene σ) α} {g : α → Operation (Scene σ) β} (first : FailsAs p x)
    (rest : ∀ a, FailsAs p (g a)) : FailsAs p (x >>= g) := by
  intro scene f failed
  rw [run_bind] at failed
  have firstFails := first scene
  generalize x.run.run scene = result at failed firstFails
  rcases result with ⟨outcome, t⟩
  cases outcome with
  | ok a => exact rest a t f failed
  | error e =>
      cases failed
      exact firstFails _ rfl

theorem lift {op : Operation σ α}
    (fails : ∀ s f, (op.run.run s).1 = .error f → p.Fails f) : FailsAs p (Scene.lift op) := by
  intro scene f failed
  rw [Scene.run_lift] at failed
  exact fails scene.platform f failed

theorem liftTotal (op : StateM σ α) : FailsAs p (Scene.liftTotal op) := by
  rintro scene f ⟨⟩

end FailsAs

theorem Throttle.countHits_failsAs (p : Platform σ) (seconds : Nat) (keys : List String) :
    FailsAs p (countHits p seconds keys) := by
  induction keys with
  | nil => exact .pure _
  | cons key keys ih =>
      rw [countHits]
      refine .bind (.bind (.lift fun s f failed => ?_) fun _ => .pure _) fun _ => ih
      exact .increment failed

/-- A consequence that was asked before it is carried out fails only as the platform does. -/
theorem Consequence.carryOut_failsAs (p : Platform σ) (settings : Settings) {c : Consequence}
    (asked : c.kind.isDisabler = true → c.suppresses.isSome) :
    FailsAs p (c.carryOut p settings) := by
  rcases c with ⟨s, measure, suppresses⟩
  cases measure with
  | throttle t =>
      obtain ⟨engaged, answered⟩ := Option.isSome_iff_exists.mp (asked rfl)
      cases answered
      exact .bind (Throttle.countHits_failsAs p t.seconds _) fun _ => .pure _
  | warn message =>
      obtain ⟨warns, answered⟩ := Option.isSome_iff_exists.mp (asked rfl)
      cases answered
      exact .bind (.liftTotal _) fun _ => .pure _
  | disallow message => exact .pure _
  | block seconds blocksTalk => exact .lift fun s f failed => .block failed
  | rangeBlock =>
      unfold carryOut
      simp only
      cases s.action.address with
      | none => exact .pure _
      | some address => exact .lift fun s f failed => .block failed
  | degroup =>
      unfold carryOut
      simp only
      split
      · exact .lift fun s f failed => .degroup failed
      · exact .pure _
  | blockPromotion seconds =>
      unfold carryOut
      simp only
      split
      · exact .bind (.lift fun s f failed => .setCount failed) fun _ => .pure _
      · exact .pure _
  | tag tags => rintro scene f ⟨⟩
  | custom name params => exact .lift fun s f failed => .custom failed

namespace Execution

/-- A failure of one of the consequences, with the wording of a fault of the platform. -/
def IsFailureOf (p : Platform σ) (cs : List Consequence)
    (failure : FilterId × String × String) : Prop :=
  ∃ c ∈ cs, ∃ f, p.Fails f ∧ failure = (c.subject.filter, c.name, f.text)

theorem carryOutAll_failures {p : Platform σ} {settings : Settings} {r : ExecutionResult}
    {cs : List Consequence} (asked : ∀ c ∈ cs, c.kind.isDisabler = true → c.suppresses.isSome)
    {scene : Scene σ} {failure : FilterId × String × String}
    (mem : failure ∈ ((carryOutAll p settings r cs).run scene).1.failures) :
    failure ∈ r.failures ∨ IsFailureOf p cs failure := by
  induction cs generalizing r scene with
  | nil => exact .inl mem
  | cons c cs ih =>
      have ofPlatform := Consequence.carryOut_failsAs p settings (asked c List.mem_cons_self) scene
      have run : ((carryOutAll p settings r (c :: cs)).run scene) =
          (carryOutAll p settings (r.add c ((c.carryOut p settings).run.run scene).1) cs).run
            ((c.carryOut p settings).run.run scene).2 := rfl
      rw [run] at mem
      rcases ih (fun d mem => asked d (List.mem_cons_of_mem _ mem)) mem with early | late
      · generalize ((c.carryOut p settings).run.run scene).1 = outcome at early ofPlatform
        cases outcome with
        | ok took =>
            cases took with
            | true => exact .inl early
            | false => exact .inl early
        | error f =>
            rcases List.mem_append.mp early with before | now
            · exact .inl before
            · rw [List.mem_singleton.mp now]
              exact .inr ⟨c, List.mem_cons_self, f, ofPlatform f rfl, rfl⟩
      · obtain ⟨d, inside, f, fails, same⟩ := late
        exact .inr ⟨d, List.mem_cons_of_mem _ inside, f, fails, same⟩

end Execution

end EditGuard
