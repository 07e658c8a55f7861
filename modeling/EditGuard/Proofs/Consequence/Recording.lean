import EditGuard.Consequence.Execution
import EditGuard.Proofs.Stateful

/-!
# Platforms that record their use

A platform can be made to record which operations it was asked for, in their order,
and to act as it did otherwise.  The record of a computation is put together from the
records of its parts.
-/

namespace EditGuard

variable {σ α β : Type}

/-! ## Calls -/

/-- An operation of a platform with its arguments. -/
inductive PlatformCall where
  | increment (key : String) (seconds : Nat)
  | count (key : String)
  | setCount (key : String) (value : Int) (seconds : Nat)
  | block (request : BlockRequest)
  | degroup (subject : Subject)
  | custom (name : String) (params : List String) (subject : Subject)
  | logHit (entry : AuditEntry)
  | countHit (id : FilterId)
  | hasFlag (key : String)
  | setFlag (key : String)
  | clearFlag (key : String)
deriving Repr, DecidableEq, Inhabited

namespace PlatformCall

/-- Whether nothing but an answer is wanted. -/
def isQuestion : PlatformCall → Bool
  | count _ | hasFlag _ => true
  | _ => false

/-- The flag of the session that is read or changed. -/
def flag? : PlatformCall → Option String
  | hasFlag key | setFlag key | clearFlag key => some key
  | _ => none

/-- Whether the hit of a filter is logged or counted. -/
def isLogging : PlatformCall → Bool
  | logHit _ | countHit _ => true
  | _ => false

/-- The filter whose hit is logged. -/
def audited? : PlatformCall → Option FilterId
  | logHit entry => some entry.filter
  | _ => none

theorem isLogging_of_isQuestion {call : PlatformCall} (isQuestion : call.isQuestion = true) :
    call.isLogging = false := by
  cases call with
  | count key => rfl
  | hasFlag key => rfl
  | _ => cases isQuestion

theorem audited?_of_not_isLogging {call : PlatformCall} (other : call.isLogging = false) :
    call.audited? = none := by
  cases call with
  | logHit entry => cases other
  | _ => rfl

end PlatformCall

/-! ## Recording -/

namespace Platform

/-- Record an operation that may fail. -/
def record (call : PlatformCall) (op : Operation σ α) : Operation (σ × List PlatformCall) α := do
  let s ← get
  let (outcome, platform) := op.run.run s.1
  set (platform, s.2 ++ [call])
  match outcome with
  | .ok a => pure a
  | .error f => throw f

/-- Record an operation that does not fail. -/
def recordTotal (call : PlatformCall) (op : StateM σ α) : StateM (σ × List PlatformCall) α := do
  let s ← get
  let (a, platform) := op.run s.1
  set (platform, s.2 ++ [call])
  return a

/-- The platform that records all of its operations. -/
def recorded (p : Platform σ) : Platform (σ × List PlatformCall) :=
  { increment := fun key seconds => record (.increment key seconds) (p.increment key seconds)
    count := fun key => record (.count key) (p.count key)
    setCount := fun key value seconds =>
      record (.setCount key value seconds) (p.setCount key value seconds)
    block := fun request => record (.block request) (p.block request)
    degroup := fun subject => record (.degroup subject) (p.degroup subject)
    custom := fun name params subject =>
      record (.custom name params subject) (p.custom name params subject)
    logHit := fun entry => record (.logHit entry) (p.logHit entry)
    countHit := fun id => record (.countHit id) (p.countHit id)
    hasFlag := fun key => recordTotal (.hasFlag key) (p.hasFlag key)
    setFlag := fun key => recordTotal (.setFlag key) (p.setFlag key)
    clearFlag := fun key => recordTotal (.clearFlag key) (p.clearFlag key) }

end Platform

theorem Platform.run_record (call : PlatformCall) (op : Operation σ α) (s : σ)
    (log : List PlatformCall) :
    (record call op).run.run (s, log) =
      ((op.run.run s).1, (op.run.run s).2, log ++ [call]) := by
  simp only [record, run_get_bind]
  rcases op.run.run s with ⟨outcome, t⟩
  cases outcome <;> rfl

theorem Scene.run_lift (op : Operation σ α) (scene : Scene σ) :
    (lift op).run.run scene =
      ((op.run.run scene.platform).1,
        { scene with platform := (op.run.run scene.platform).2 }) := by
  simp only [lift, run_get_bind]
  rcases op.run.run scene.platform with ⟨outcome, t⟩
  cases outcome <;> rfl

/-! ## The record of a computation -/

/-- A scene with a record of the use of its platform. -/
def Scene.withRecord (scene : Scene σ) (log : List PlatformCall) :
    Scene (σ × List PlatformCall) :=
  ⟨(scene.platform, log), scene.tags⟩

/-- From a scene on, `y` does what `x` does and records calls of a kind. -/
def Records (scene : Scene σ) (allowed : PlatformCall → Prop) (x : StateM (Scene σ) α)
    (y : StateM (Scene (σ × List PlatformCall)) α) : Prop :=
  ∀ log, ∃ calls, (∀ call ∈ calls, allowed call) ∧
    y.run (scene.withRecord log) =
      ((x.run scene).1, (x.run scene).2.withRecord (log ++ calls))

namespace Records

variable {scene : Scene σ} {allowed : PlatformCall → Prop}

theorem nothing {x : StateM (Scene σ) α} {y : StateM (Scene (σ × List PlatformCall)) α}
    (same : ∀ log, y.run (scene.withRecord log) =
      ((x.run scene).1, (x.run scene).2.withRecord log)) :
    Records scene allowed x y := by
  intro log
  refine ⟨[], ?_, ?_⟩
  · intro call mem
    cases mem
  · rw [List.append_nil, same log]

theorem pure (a : α) : Records scene allowed (pure a) (pure a) :=
  nothing fun _ => rfl

/-- A record of calls of one kind is one of calls of another. -/
theorem mono {wider : PlatformCall → Prop} {x : StateM (Scene σ) α}
    {y : StateM (Scene (σ × List PlatformCall)) α} (records : Records scene allowed x y)
    (widens : ∀ call, allowed call → wider call) : Records scene wider x y := by
  intro log
  obtain ⟨calls, kinds, ran⟩ := records log
  exact ⟨calls, fun call mem => widens call (kinds call mem), ran⟩

theorem bind {x : StateM (Scene σ) α} {y : StateM (Scene (σ × List PlatformCall)) α}
    {f : α → StateM (Scene σ) β} {g : α → StateM (Scene (σ × List PlatformCall)) β}
    (first : Records scene allowed x y)
    (rest : Records (x.run scene).2 allowed (f (x.run scene).1) (g (x.run scene).1)) :
    Records scene allowed (x >>= f) (y >>= g) := by
  intro log
  obtain ⟨calls, kinds, ran⟩ := first log
  obtain ⟨later, laterKinds, laterRan⟩ := rest (log ++ calls)
  refine ⟨calls ++ later, ?_, ?_⟩
  · intro call mem
    rcases List.mem_append.mp mem with mem | mem
    · exact kinds call mem
    · exact laterKinds call mem
  · have joined : (y >>= g).run (scene.withRecord log) =
        (g (y.run (scene.withRecord log)).1).run (y.run (scene.withRecord log)).2 := rfl
    rw [joined, ran, laterRan, List.append_assoc]
    rfl

theorem discard {x : StateM (Scene σ) α} {y : StateM (Scene (σ × List PlatformCall)) α}
    (records : Records scene allowed x y) :
    Records scene allowed (Functor.discard x) (Functor.discard y) := by
  intro log
  obtain ⟨calls, kinds, ran⟩ := records log
  refine ⟨calls, kinds, ?_⟩
  rw [run_discard, ran]
  rfl

/-- Two computations that may fail, one after the other. -/
theorem operation {x : Operation (Scene σ) α} {y : Operation (Scene (σ × List PlatformCall)) α}
    {f : α → Operation (Scene σ) β} {g : α → Operation (Scene (σ × List PlatformCall)) β}
    (first : Records scene allowed x.run y.run)
    (rest : ∀ a, (x.run.run scene).1 = .ok a →
      Records (x.run.run scene).2 allowed (f a).run (g a).run) :
    Records scene allowed (x >>= f).run (y >>= g).run := by
  intro log
  obtain ⟨calls, kinds, ran⟩ := first log
  rw [run_bind, run_bind, ran]
  generalize x.run.run scene = result at rest ⊢
  rcases result with ⟨outcome, t⟩
  cases outcome with
  | ok a =>
      obtain ⟨later, laterKinds, laterRan⟩ := rest a rfl (log ++ calls)
      refine ⟨calls ++ later, ?_, ?_⟩
      · intro call mem
        rcases List.mem_append.mp mem with mem | mem
        · exact kinds call mem
        · exact laterKinds call mem
      · rw [← List.append_assoc]
        exact laterRan
  | error e => exact ⟨calls, kinds, rfl⟩

theorem lift {call : PlatformCall} (isAllowed : allowed call) (op : Operation σ α) :
    Records scene allowed (Scene.lift op).run (Scene.lift (Platform.record call op)).run := by
  intro log
  refine ⟨[call], ?_, ?_⟩
  · intro other mem
    rw [List.mem_singleton.mp mem]
    exact isAllowed
  · rw [Scene.run_lift, Scene.run_lift, Scene.withRecord, Platform.run_record]
    rfl

theorem liftTotal {call : PlatformCall} (isAllowed : allowed call) (op : StateM σ α) :
    Records scene allowed (Scene.liftTotal op : Operation (Scene σ) α).run
      (Scene.liftTotal (Platform.recordTotal call op) : Operation _ α).run := by
  intro log
  refine ⟨[call], ?_, ?_⟩
  · intro other mem
    rw [List.mem_singleton.mp mem]
    exact isAllowed
  · rfl

end Records

end EditGuard
