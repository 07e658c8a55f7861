import EditGuard.Proofs.Consequence.Recording

/-!
# Asking consequences about each other

Before anything is carried out the consequences of a filter are asked whether they
suppress the others.  Asking puts questions to the platform and does nothing else.
-/

namespace EditGuard

variable {σ : Type}

/-! ## Questions -/

/-- A platform whose state is not changed by questions. -/
def Platform.ReadsOnly (p : Platform σ) : Prop :=
  (∀ key s, ((p.count key).run.run s).2 = s) ∧ ∀ key s, ((p.hasFlag key).run s).2 = s

/-- The scenes that are reached by questions to the platform. -/
inductive Questioned (p : Platform σ) (scene : Scene σ) : Scene σ → Prop
  | none : Questioned p scene scene
  | count {t : Scene σ} (key : String) (before : Questioned p scene t) :
      Questioned p scene { t with platform := ((p.count key).run.run t.platform).2 }
  | hasFlag {t : Scene σ} (key : String) (before : Questioned p scene t) :
      Questioned p scene { t with platform := ((p.hasFlag key).run t.platform).2 }

namespace Questioned

variable {p : Platform σ} {scene middle finish : Scene σ}

theorem trans (first : Questioned p scene middle) (second : Questioned p middle finish) :
    Questioned p scene finish := by
  induction second with
  | none => exact first
  | count key _ ih => exact .count key ih
  | hasFlag key _ ih => exact .hasFlag key ih

/-- If questions change nothing, then nothing was changed. -/
theorem eq_of_readsOnly (readsOnly : p.ReadsOnly) (questioned : Questioned p scene finish) :
    finish = scene := by
  induction questioned with
  | none => rfl
  | count key _ ih =>
      rw [readsOnly.1]
      exact ih
  | hasFlag key _ ih =>
      rw [readsOnly.2]
      exact ih

end Questioned

/-- The calls that a consequence may make when it is asked: questions, and about no flag
but that of its warning. -/
def Consequence.MayAsk (c : Consequence) (call : PlatformCall) : Prop :=
  call.isQuestion = true ∧
    ∀ key, call.flag? = some key → c.kind = .warn ∧ key = Consequence.warnedKey c.subject

/-! ## One consequence -/

namespace Throttle

theorem run_isEngaged_cons (p : Platform σ) (count : Int) (key : String) (keys : List String)
    (scene : Scene σ) :
    (isEngaged p count (key :: keys)).run.run scene =
      match (p.count key).run.run scene.platform with
      | (.ok hits, platform) =>
          match (isEngaged p count keys).run.run { scene with platform } with
          | (.ok later, t) => (.ok (decide (count ≤ hits.getD 0) || later), t)
          | (.error f, t) => (.error f, t)
      | (.error f, platform) => (.error f, { scene with platform }) := by
  rw [isEngaged, run_bind, Scene.run_lift]
  rcases (p.count key).run.run scene.platform with ⟨outcome, platform⟩
  cases outcome with
  | ok hits =>
      simp only [run_bind]
      rcases (isEngaged p count keys).run.run { scene with platform } with ⟨later, t⟩
      cases later <;> rfl
  | error f => rfl

theorem isEngaged_questioned (p : Platform σ) (count : Int) (keys : List String)
    (scene : Scene σ) : Questioned p scene ((isEngaged p count keys).run.run scene).2 := by
  induction keys generalizing scene with
  | nil => exact .none
  | cons key keys ih =>
      have asked : Questioned p scene _ := .count key .none
      rw [run_isEngaged_cons]
      generalize (p.count key).run.run scene.platform = result at asked ⊢
      rcases result with ⟨outcome, platform⟩
      cases outcome with
      | ok hits =>
          have later := asked.trans (ih { scene with platform })
          simp only
          generalize (isEngaged p count keys).run.run { scene with platform } = result at later ⊢
          rcases result with ⟨outcome, t⟩
          cases outcome with
          | ok later => exact later
          | error f => exact later
      | error f => exact asked

theorem isEngaged_records (p : Platform σ) (count : Int) (keys : List String)
    (scene : Scene σ) :
    Records scene (fun call => call.isQuestion = true ∧ call.flag? = none)
      (isEngaged p count keys).run (isEngaged p.recorded count keys).run := by
  induction keys generalizing scene with
  | nil => exact .pure _
  | cons key keys ih =>
      rw [isEngaged, isEngaged]
      refine .operation (.lift ⟨rfl, rfl⟩ (p.count key)) ?_
      intro hits _
      refine .operation (ih _) ?_
      intro later _
      exact .pure _

end Throttle

namespace Consequence

/-- What a consequence answers when it is asked; nothing if it cannot be asked. -/
def answerAt (p : Platform σ) (settings : Settings) (scene : Scene σ) (c : Consequence) :
    Option Bool :=
  ((c.asksToSuppress p settings).run.run scene).1.toOption

/-- The scene after a consequence was asked. -/
def afterAsking (p : Platform σ) (settings : Settings) (scene : Scene σ) (c : Consequence) :
    Scene σ :=
  ((c.asksToSuppress p settings).run.run scene).2

theorem afterAsking_questioned (p : Platform σ) (settings : Settings) (scene : Scene σ)
    (c : Consequence) : Questioned p scene (c.afterAsking p settings scene) := by
  unfold afterAsking asksToSuppress
  split
  · exact Throttle.isEngaged_questioned _ _ _ _
  · exact .hasFlag _ .none
  · exact .none

theorem asksToSuppress_records (p : Platform σ) (settings : Settings) (scene : Scene σ)
    (c : Consequence) :
    Records scene c.MayAsk (c.asksToSuppress p settings).run
      (c.asksToSuppress p.recorded settings).run := by
  unfold asksToSuppress
  split
  · apply (Throttle.isEngaged_records p _ _ scene).mono
    rintro call ⟨isQuestion, noFlag⟩
    refine ⟨isQuestion, fun key concerns => ?_⟩
    rw [noFlag] at concerns
    contradiction
  · rename_i message isWarn
    refine .operation (.liftTotal ?_ (p.hasFlag _)) fun _ _ => .pure _
    refine ⟨rfl, ?_⟩
    rintro key ⟨⟩
    refine ⟨?_, rfl⟩
    rw [kind, isWarn]
    rfl
  · exact .pure _

/-- A warning suppresses the others unless its flag is set. -/
theorem answerAt_of_warn {p : Platform σ} {settings : Settings} {scene : Scene σ}
    {c : Consequence} (isWarn : c.kind = .warn) :
    c.answerAt p settings scene =
      some (!((p.hasFlag (warnedKey c.subject)).run scene.platform).1) := by
  rcases c with ⟨subject, measure, suppresses⟩
  cases measure with
  | warn message => rfl
  | _ => contradiction

end Consequence

end EditGuard
