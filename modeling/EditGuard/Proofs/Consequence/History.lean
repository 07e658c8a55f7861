import EditGuard.Proofs.Consequence.Bookkeeping
import EditGuard.Proofs.Consequence.Outcomes
import EditGuard.Proofs.Consequence.Protocol

/-!
# Histories of runs

Consequences are carried out time and again, on one ledger, though not always under the same
settings.  A history consists of episodes, each of which starts from the ledger that the one
before has left.  What an episode executes is determined by the answers in the scene before.
-/

namespace EditGuard.Execution

/-! ## Episodes -/

/-- What a run is given: the settings, the time, the session, where actions are loaded, the
action, the filters that matched it, and what is logged with their hits. -/
structure Occasion where
  settings : Settings
  now : Nat
  /-- The flags of the session; without them the last session goes on. -/
  session? : Option Flags
  tags : Tags
  source : FilterSource
  action : Action
  matched : List Filter
  dump : Option String

namespace Occasion

/-- The scene in which a run starts from a ledger. -/
def enter (o : Occasion) (l : Ledger) : Scene Ledger :=
  ⟨{ l with now := o.now, flags := o.session?.getD l.flags }, o.tags⟩

/-- Whom the consequences of a filter concern, if it matched. -/
def subject? (o : Occasion) (id : FilterId) : Option Subject :=
  (o.matched.find? (·.id == some id)).map fun f => ⟨id, f.name, o.action⟩

section

variable {o : Occasion} {id : FilterId}

theorem exists_of_subject? {s : Subject} (isSubject : o.subject? id = some s) :
    ∃ f ∈ o.matched, f.id = some id ∧ s = ⟨id, f.name, o.action⟩ := by
  obtain ⟨f, found, rfl⟩ := Option.map_eq_some_iff.mp isSubject
  have sameId := List.find?_some found
  exact ⟨f, List.mem_of_find?_eq_some found, beq_iff_eq.mp sameId, rfl⟩

/-- A filter that matched is found by its identity. -/
theorem subject?_of_mem (distinct : (o.matched.filterMap Filter.id).Nodup) {f : Filter}
    (mem : f ∈ o.matched) (isId : f.id = some id) :
    o.subject? id = some ⟨id, f.name, o.action⟩ := by
  rw [subject?, (find?_id_eq_some_iff distinct).mpr ⟨mem, isId⟩]
  rfl

end

end Occasion

/-- A run of a history, with the ledger from which it starts. -/
structure Episode where
  occasion : Occasion
  before : Ledger

namespace Episode

variable (e : Episode)

def scene : Scene Ledger :=
  e.occasion.enter e.before

/-- The result of the run, and the scene that it leaves. -/
def ran : ExecutionResult × Scene Ledger :=
  (run Ledger.platform e.occasion.settings e.occasion.source e.occasion.action
    e.occasion.matched e.occasion.dump).run e.scene

def result : ExecutionResult :=
  e.ran.1

/-- The ledger from which the next episode starts. -/
def after : Ledger :=
  e.ran.2.platform

def executed : List Outcome :=
  outcomesFor Ledger.platform e.occasion.settings e.occasion.source e.occasion.action
    e.occasion.matched e.scene

/-- What the consequences answer that are asked. -/
def answer : Consequence → Option Bool :=
  Consequence.answerAt Ledger.platform e.occasion.settings e.scene

/-- The consequences that are executed, by the answers. -/
def pending : List Consequence :=
  chosen e.occasion.settings e.occasion.source e.occasion.action e.answer e.occasion.matched

/-- The throttle of a filter was executed, and it is engaged. -/
def throttled (id : FilterId) : Bool :=
  e.executed.any fun o => o.1.label == (id, "throttle") && o.1.suppresses == some true

end Episode

/-- The episodes of runs one after the other. -/
def history : Ledger → List Occasion → List Episode
  | _, [] => []
  | l, o :: os =>
      let e : Episode := ⟨o, l⟩
      e :: history e.after os

section

variable {start : Ledger} {os : List Occasion}

theorem occasion_mem {e : Episode} (mem : e ∈ history start os) : e.occasion ∈ os := by
  induction os generalizing start with
  | nil => cases mem
  | cons o os ih =>
      rcases List.mem_cons.mp mem with rfl | mem
      · exact List.mem_cons_self
      · exact List.mem_cons_of_mem _ (ih mem)

theorem occasion_mem_of_split {earlier later : List Episode} {e : Episode}
    (split : history start os = earlier ++ e :: later) : e.occasion ∈ os := by
  have inHistory : e ∈ history start os := by
    rw [split]
    exact List.mem_append_right _ List.mem_cons_self
  exact occasion_mem inHistory

/-- What every episode keeps holds before each of them, of the episodes until then and the
ledger. -/
theorem holds_before {holds : List Episode → Ledger → Prop} (atFirst : holds [] start)
    (kept : ∀ past e, e.occasion ∈ os → holds past e.before → holds (past ++ [e]) e.after)
    {earlier later : List Episode} {e : Episode}
    (split : history start os = earlier ++ e :: later) : holds earlier e.before := by
  have further : ∀ (os : List Occasion) (start : Ledger) (past earlier : List Episode),
      (∀ past e, e.occasion ∈ os → holds past e.before → holds (past ++ [e]) e.after) →
      holds past start → history start os = earlier ++ e :: later →
      holds (past ++ earlier) e.before := by
    intro os
    induction os with
    | nil =>
        intro start past earlier _ _ split
        exact absurd split.symm (List.append_ne_nil_of_right_ne_nil _ (List.cons_ne_nil _ _))
    | cons o os ih =>
        intro start past earlier kept now split
        cases earlier with
        | nil =>
            cases (List.cons.inj split).1
            rw [List.append_nil]
            exact now
        | cons d earlier =>
            obtain ⟨isFirst, rest⟩ := List.cons.inj split
            subst isFirst
            have next := kept past ⟨o, start⟩ List.mem_cons_self now
            rw [List.append_cons]
            exact ih _ _ _ (fun past e mem => kept past e (List.mem_cons_of_mem _ mem)) next rest
  exact further os start [] earlier kept atFirst split

/-- What no earlier episode changes in the ledger is as it was at first. -/
theorem view_before {α : Type} (view : Ledger → α) {earlier later : List Episode} {e : Episode}
    (split : history start os = earlier ++ e :: later)
    (kept : ∀ d ∈ earlier, d.occasion ∈ os → view d.after = view d.before) :
    view e.before = view start := by
  let Same (past : List Episode) (l : Ledger) : Prop :=
    (∀ d ∈ past, d.occasion ∈ os → view d.after = view d.before) → view l = view start
  have atFirst : Same [] start := fun _ => rfl
  have step : ∀ past d, d.occasion ∈ os → Same past d.before →
      Same (past ++ [d]) d.after := by
    intro past d mem same kept
    rw [List.forall_mem_append, List.forall_mem_singleton] at kept
    rw [kept.2 mem]
    exact same kept.1
  exact holds_before atFirst step split kept

end

/-! ## One episode -/

namespace Episode

variable {e : Episode}

section

variable (distinct : (e.occasion.matched.filterMap Filter.id).Nodup)
include distinct

theorem executed_eq :
    e.executed = outcomes Ledger.platform e.occasion.settings e.scene e.pending := by
  rw [executed, outcomesFor, run_pending_of_readsOnly Ledger.readsOnly_platform distinct]
  rfl

theorem map_fst_executed : e.executed.map Prod.fst = e.pending := by
  rw [executed_eq distinct, map_fst_outcomes]

theorem ran_eq :
    e.ran =
      (conclude Ledger.platform e.occasion.settings e.occasion.action e.occasion.matched
        e.occasion.dump e.pending).run e.scene := by
  rw [ran, run_eq, StateT.run_bind, run_pending_of_readsOnly Ledger.readsOnly_platform distinct]
  rfl

/-- The ledger that is left is, but for the log, the one after all consequences. -/
theorem view_after_eq {α : Type} {view : Ledger → α} (bare : Ledger.Bare view) :
    view e.after =
      view (sceneAfter Ledger.platform e.occasion.settings e.scene e.pending).platform := by
  have carried := run_carryOutAll Ledger.platform e.occasion.settings e.pending e.scene
  rw [after, ran_eq distinct, conclude, StateT.run_bind, carried]
  exact view_logHits bare _ _ _ _ _

/-- What no consequence changes is left as it was. -/
theorem view_after {α : Type} {view : Ledger → α} (bare : Ledger.Bare view)
    (hidden : ∀ d ∈ e.pending, d.Hidden view e.occasion.settings) :
    view e.after = view e.scene.platform := by
  rw [view_after_eq distinct bare]
  exact view_sceneAfter fun d mem => Consequence.view_carryOut bare.unaffected (hidden d mem)

/-- No two consequences that are executed have the same filter and the same name. -/
theorem nodup_pending : (e.pending.map Consequence.label).Nodup :=
  nodup_chosen distinct _

/-- Each consequence is executed once. -/
theorem filter_executed {o : Outcome} (mem : o ∈ e.executed) :
    e.executed.filter (·.1.label == o.1.label) = [o] := by
  have labels : (e.pending.map Consequence.label).Nodup := nodup_pending distinct
  rw [← map_fst_executed distinct, List.map_map] at labels
  exact filter_key_eq_singleton labels mem

/-- A consequence is carried out at its turn.  What all others hide is then as in the scene
before, and the episode leaves what this consequence makes of it. -/
theorem exists_turn_of_pending {c : Consequence} (mem : c ∈ e.pending) :
    ∃ turn : Scene Ledger,
      (c, ((c.carryOut Ledger.platform e.occasion.settings).run.run turn).1) ∈ e.executed ∧
        ∀ {α : Type} {view : Ledger → α}, Ledger.Bare view →
          (∀ d ∈ e.pending, d ≠ c → d.Hidden view e.occasion.settings) →
          view turn.platform = view e.scene.platform ∧ view e.after =
            view ((c.carryOut Ledger.platform e.occasion.settings).run.run turn).2.platform := by
  obtain ⟨turn, carriedOut, others⟩ := exists_turn Ledger.platform e.occasion.settings e.scene
    (nodup_pending distinct).of_map mem
  rw [executed_eq distinct]
  refine ⟨turn, carriedOut, fun bare hidden => ?_⟩
  rw [view_after_eq distinct bare]
  exact others _ fun d inside other =>
    Consequence.view_carryOut bare.unaffected (hidden d inside other)

/-- What is executed concerns filters that matched. -/
theorem subject?_of_mem_pending {c : Consequence} (mem : c ∈ e.pending) :
    e.occasion.subject? c.subject.filter = some c.subject := by
  obtain ⟨f, inside, left⟩ := mem_chosen mem
  obtain ⟨id, isId, subject⟩ := subject_of_mem_remaining left
  rw [subject]
  exact Occasion.subject?_of_mem distinct inside isId

end

end Episode

end EditGuard.Execution
