import EditGuard.Consequence.Execution
import EditGuard.Proofs.Stateful
import Mathlib.Data.List.Induction

/-!
# Outcomes of consequences

Consequences are carried out one after the other, and each of them takes effect, or does not
apply, or fails.  What a run reports is put together from these outcomes.
-/

namespace EditGuard.Execution

variable {σ : Type}

/-- A consequence with what came of it when it was carried out. -/
abbrev Outcome := Consequence × Except Fault Bool

/-- Consequences that are carried out one after the other, with their outcomes. -/
def outcomes (p : Platform σ) (settings : Settings) :
    Scene σ → List Consequence → List (Consequence × Except Fault Bool)
  | _, [] => []
  | scene, c :: cs =>
      let ran := (c.carryOut p settings).run.run scene
      (c, ran.1) :: outcomes p settings ran.2 cs

/-- The scene that is left after consequences were carried out. -/
def sceneAfter (p : Platform σ) (settings : Settings) : Scene σ → List Consequence → Scene σ
  | scene, [] => scene
  | scene, c :: cs => sceneAfter p settings ((c.carryOut p settings).run.run scene).2 cs

/-- What is carried out for filters that matched, with the outcomes. -/
def outcomesFor (p : Platform σ) (settings : Settings) (source : FilterSource) (action : Action)
    (matched : List Filter) (scene : Scene σ) : List (Consequence × Except Fault Bool) :=
  let asked := (pending p settings source action matched).run scene
  outcomes p settings asked.2 asked.1

section

variable {p : Platform σ} {settings : Settings} {cs : List Consequence} {scene : Scene σ}

/-- Every consequence has the outcome that it has in some scene. -/
theorem exists_mem_outcomes (p : Platform σ) (settings : Settings) (scene : Scene σ)
    {c : Consequence} (mem : c ∈ cs) :
    ∃ during, (c, ((c.carryOut p settings).run.run during).1) ∈ outcomes p settings scene cs := by
  induction cs generalizing scene with
  | nil => cases mem
  | cons d cs ih =>
      rcases List.mem_cons.mp mem with rfl | mem
      · exact ⟨scene, List.mem_cons_self⟩
      · obtain ⟨during, inside⟩ := ih ((d.carryOut p settings).run.run scene).2 mem
        exact ⟨during, List.mem_cons_of_mem _ inside⟩

theorem mem_outcomes {o : Consequence × Except Fault Bool}
    (mem : o ∈ outcomes p settings scene cs) :
    ∃ during, o.2 = ((o.1.carryOut p settings).run.run during).1 := by
  induction cs generalizing scene with
  | nil => cases mem
  | cons c cs ih =>
      rcases List.mem_cons.mp mem with rfl | mem
      · exact ⟨scene, rfl⟩
      · exact ih mem

theorem map_fst_outcomes (p : Platform σ) (settings : Settings) (scene : Scene σ)
    (cs : List Consequence) : (outcomes p settings scene cs).map Prod.fst = cs := by
  induction cs generalizing scene with
  | nil => rfl
  | cons c cs ih =>
      rw [outcomes, List.map_cons, ih]

theorem outcomes_append (p : Platform σ) (settings : Settings) (scene : Scene σ)
    (cs ds : List Consequence) :
    outcomes p settings scene (cs ++ ds) =
      outcomes p settings scene cs ++ outcomes p settings (sceneAfter p settings scene cs) ds := by
  induction cs generalizing scene with
  | nil => rfl
  | cons c cs ih => exact congrArg (List.cons _) (ih _)

theorem sceneAfter_append (p : Platform σ) (settings : Settings) (scene : Scene σ)
    (cs ds : List Consequence) :
    sceneAfter p settings scene (cs ++ ds) =
      sceneAfter p settings (sceneAfter p settings scene cs) ds := by
  induction cs generalizing scene with
  | nil => rfl
  | cons c cs ih => exact ih _

end

/-! ## What is kept by the others -/

section

variable {p : Platform σ} {settings : Settings} {cs : List Consequence} {scene : Scene σ}

/-- What every consequence keeps is kept by all of them. -/
theorem view_sceneAfter {α : Type} {view : σ → α}
    (kept : ∀ c ∈ cs, ∀ scene : Scene σ,
      view ((c.carryOut p settings).run.run scene).2.platform = view scene.platform) :
    view (sceneAfter p settings scene cs).platform = view scene.platform := by
  induction cs generalizing scene with
  | nil => rfl
  | cons c cs ih =>
      rw [sceneAfter, ih fun d mem => kept d (List.mem_cons_of_mem _ mem)]
      exact kept c List.mem_cons_self scene

/-- A consequence is carried out at its turn.  What all others keep is then what it was at
first, and at last it is what this consequence makes of it. -/
theorem exists_turn (p : Platform σ) (settings : Settings) (scene : Scene σ) {c : Consequence}
    (distinct : cs.Nodup) (mem : c ∈ cs) :
    ∃ turn : Scene σ, (c, ((c.carryOut p settings).run.run turn).1) ∈ outcomes p settings scene cs ∧
      ∀ {α : Type} (view : σ → α),
        (∀ d ∈ cs, d ≠ c → ∀ scene : Scene σ,
          view ((d.carryOut p settings).run.run scene).2.platform = view scene.platform) →
        view turn.platform = view scene.platform ∧
          view (sceneAfter p settings scene cs).platform =
            view ((c.carryOut p settings).run.run turn).2.platform := by
  obtain ⟨before, after, rfl⟩ := List.append_of_mem mem
  obtain ⟨-, distinctAfter, apart⟩ := List.nodup_append.mp distinct
  refine ⟨sceneAfter p settings scene before, ?_, ?_⟩
  · rw [outcomes_append]
    exact List.mem_append_right _ List.mem_cons_self
  · intro α view kept
    have keptBefore : ∀ d ∈ before, ∀ scene : Scene σ,
        view ((d.carryOut p settings).run.run scene).2.platform = view scene.platform :=
      fun d inside => kept d (List.mem_append_left _ inside) (apart d inside c List.mem_cons_self)
    have keptAfter : ∀ d ∈ after, ∀ scene : Scene σ,
        view ((d.carryOut p settings).run.run scene).2.platform = view scene.platform := by
      intro d inside
      refine kept d (List.mem_append_right _ (List.mem_cons_of_mem _ inside)) ?_
      rintro rfl
      exact (List.nodup_cons.mp distinctAfter).1 inside
    rw [sceneAfter_append, sceneAfter]
    exact ⟨view_sceneAfter keptBefore, view_sceneAfter keptAfter⟩

end

/-! ## What is reported -/

/-- What a run reports of the outcomes of its consequences. -/
def report (os : List Outcome) : ExecutionResult :=
  os.foldl (fun r o => r.add o.1 o.2) .nothing

theorem run_carryOutAll (p : Platform σ) (settings : Settings) (cs : List Consequence)
    (scene : Scene σ) :
    (carryOutAll p settings .nothing cs).run scene =
      (report (outcomes p settings scene cs), sceneAfter p settings scene cs) := by
  have further : ∀ (cs : List Consequence) (r : ExecutionResult) (scene : Scene σ),
      (carryOutAll p settings r cs).run scene =
        ((outcomes p settings scene cs).foldl (fun r o => r.add o.1 o.2) r,
          sceneAfter p settings scene cs) := by
    intro cs
    induction cs with
    | nil => exact fun _ _ => rfl
    | cons c cs ih => exact fun r scene => ih _ _
  exact further cs .nothing scene

/-- A run reports the outcomes of what is carried out. -/
theorem run_result (p : Platform σ) (settings : Settings) (source : FilterSource)
    (action : Action) (matched : List Filter) (dump : Option String) (scene : Scene σ) :
    ((run p settings source action matched dump).run scene).1 =
      report (outcomesFor p settings source action matched scene) := by
  have ran : ((run p settings source action matched dump).run scene).1 =
      ((carryOutAll p settings .nothing
        ((pending p settings source action matched).run scene).1).run
          ((pending p settings source action matched).run scene).2).1 := rfl
  rw [ran, run_carryOutAll, outcomesFor]

theorem report_append_singleton (os : List Outcome) (o : Outcome) :
    report (os ++ [o]) = (report os).add o.1 o.2 :=
  List.foldl_append

/-- The consequence of an outcome, if it took effect. -/
def effective? : Outcome → Option Consequence
  | (c, .ok true) => some c
  | _ => none

/-- The consequences that took effect, in the order in which they were carried out. -/
def effective (os : List Outcome) : List Consequence :=
  os.filterMap effective?

theorem effective?_eq_some_iff {o : Outcome} {c : Consequence} :
    effective? o = some c ↔ o = (c, .ok true) := by
  constructor
  · intro took
    unfold effective? at took
    split at took
    · cases took
      rfl
    · cases took
  · rintro rfl
    rfl

theorem mem_effective {os : List Outcome} {c : Consequence} :
    c ∈ effective os ↔ (c, .ok true) ∈ os := by
  rw [effective, List.mem_filterMap]
  constructor
  · rintro ⟨o, mem, took⟩
    rw [effective?_eq_some_iff] at took
    exact took ▸ mem
  · intro mem
    exact ⟨_, mem, rfl⟩

section

variable (os : List Outcome)

theorem vetoed_report : (report os).vetoed = (effective os).any (·.kind.vetoes) := by
  induction os using List.reverseRecOn with
  | nil => rfl
  | append_singleton os o ih =>
      rw [report_append_singleton, effective, List.filterMap_append, List.any_append,
        ← effective, ← ih]
      rcases o with ⟨c, f | took⟩
      · exact (Bool.or_false _).symm
      · cases took with
        | false => exact (Bool.or_false _).symm
        | true => simp [ExecutionResult.add, effective?]

end

end EditGuard.Execution
