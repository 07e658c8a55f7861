import EditGuard.Consequence.Ledger
import EditGuard.Proofs.Consequence.Questions
import EditGuard.Proofs.Dictionary

/-!
# What consequences do to a ledger

A consequence changes no counter and no flag of a ledger but its own: a throttle those of its
groups, a block of promotions the one of the user, a warning its flag.  No consequence changes
the time.
-/

namespace EditGuard

/-! ## Counters -/

namespace Ledger

/-- The counter under a key after a hit. -/
def nextCounter (l : Ledger) (key : String) (seconds : Nat) : Counter :=
  match (l.counters.find? key).filter fun c => decide (l.now < c.expiry) with
  | some c => { c with value := c.value + 1 }
  | none => ⟨1, l.now + seconds⟩

/-- The fault of a lifetime that is out of range. -/
def outOfRange (seconds : Nat) : Fault :=
  .other s!"counter lifetime of {seconds}s is out of range"

theorem run_expiryAfter (l : Ledger) (seconds : Nat) :
    (expiryAfter seconds).run.run l =
      if lastSecond < l.now + seconds then (.error (outOfRange seconds), l)
      else (.ok (l.now + seconds), l) := by
  rw [expiryAfter, run_get_bind]
  by_cases late : lastSecond < l.now + seconds
  · rw [if_pos late, if_pos late]
    rfl
  · rw [if_neg late, if_neg late]
    rfl

/-- A hit is counted unless the lifetime of a new counter is out of range. -/
theorem run_increment (l : Ledger) (key : String) (seconds : Nat) :
    (platform.increment key seconds).run.run l =
      if lastSecond < l.now + seconds then (.error (outOfRange seconds), l)
      else (.ok (l.nextCounter key seconds).value,
        { l with counters := l.counters.insert key (l.nextCounter key seconds) }) := by
  change (increment key seconds).run.run l = _
  rw [increment, run_bind, run_expiryAfter]
  by_cases late : lastSecond < l.now + seconds
  · rw [if_pos late, if_pos late]
  · rw [if_neg late, if_neg late]
    rfl

theorem run_setCount (l : Ledger) (key : String) (value : Int) (seconds : Nat) :
    (platform.setCount key value seconds).run.run l =
      if lastSecond < l.now + seconds then (.error (outOfRange seconds), l)
      else (.ok (), { l with counters := l.counters.insert key ⟨value, l.now + seconds⟩ }) := by
  change (setCount key value seconds).run.run l = _
  rw [setCount, run_bind, run_expiryAfter]
  by_cases late : lastSecond < l.now + seconds
  · rw [if_pos late, if_pos late]
  · rw [if_neg late, if_neg late]
    rfl

end Ledger

namespace Throttle

/-- A throttle is engaged if the count of one of its groups was reached. -/
theorem run_isEngaged_ledger (count : Int) (keys : List String) (scene : Scene Ledger) :
    (isEngaged Ledger.platform count keys).run.run scene =
      (.ok (keys.any fun key => decide (count ≤ (scene.platform.count? key).getD 0)), scene) := by
  induction keys with
  | nil => rfl
  | cons key keys ih =>
      have asked : (Ledger.platform.count key).run.run scene.platform =
          (.ok (scene.platform.count? key), scene.platform) := rfl
      rw [run_isEngaged_cons, asked]
      dsimp only
      rw [ih]
      rfl

/-- While lifetimes are in range, each group is counted once. -/
theorem run_countHits_ledger {seconds : Nat} {keys : List String} (distinct : keys.Nodup)
    (scene : Scene Ledger) (inRange : scene.platform.now + seconds ≤ Ledger.lastSecond) :
    ((countHits Ledger.platform seconds keys).run.run scene).1 = .ok () ∧
      ∀ key, ((countHits Ledger.platform seconds keys).run.run scene).2.platform.counters.find? key =
        if key ∈ keys then some (scene.platform.nextCounter key seconds)
        else scene.platform.counters.find? key := by
  induction keys generalizing scene with
  | nil =>
      refine ⟨rfl, fun key => ?_⟩
      rw [if_neg (List.not_mem_nil)]
      rfl
  | cons first keys ih =>
      obtain ⟨notAgain, distinct⟩ := List.nodup_cons.mp distinct
      let counted : Scene Ledger := { scene with platform :=
        { scene.platform with counters :=
            scene.platform.counters.insert first (scene.platform.nextCounter first seconds) } }
      have counts : (countHits Ledger.platform seconds (first :: keys)).run.run scene =
          (countHits Ledger.platform seconds keys).run.run counted := by
        rw [countHits, discard_bind, run_bind, Scene.run_lift, Ledger.run_increment,
          if_neg (Nat.not_lt.mpr inRange)]
      obtain ⟨succeeds, found⟩ := ih distinct counted inRange
      rw [counts]
      refine ⟨succeeds, fun key => ?_⟩
      have insertion : counted.platform.counters.find? key =
          if key = first then some (scene.platform.nextCounter first seconds)
          else scene.platform.counters.find? key := Dictionary.find?_insert _ _ _ _
      rw [found key, insertion]
      by_cases isFirst : key = first
      · subst isFirst
        rw [if_neg notAgain, if_pos rfl, if_pos List.mem_cons_self]
      · have sameNext : counted.platform.nextCounter key seconds =
            scene.platform.nextCounter key seconds := by
          rw [Ledger.nextCounter, insertion, if_neg isFirst]
          rfl
        rw [sameNext, if_neg isFirst]
        simp only [List.mem_cons, isFirst, false_or]

end Throttle

/-! ## Which entries are changed -/

/-- A view of a ledger that shows neither what was done nor what was logged. -/
def Ledger.Bare {α : Type} (view : Ledger → α) : Prop :=
  ∀ (l : Ledger) blocks degrouped custom audit hits,
    view { l with blocks, degrouped, custom, audit, hits } = view l

/-- A view of a ledger that does not show what was done. -/
def Ledger.Unaffected {α : Type} (view : Ledger → α) : Prop :=
  ∀ (l : Ledger) blocks degrouped custom, view { l with blocks, degrouped, custom } = view l

theorem Ledger.Bare.unaffected {α : Type} {view : Ledger → α} (bare : Bare view) :
    Unaffected view :=
  fun l blocks degrouped custom => bare l blocks degrouped custom l.audit l.hits

namespace Consequence

/-- The keys of the counters that a consequence changes. -/
def counterKeys (settings : Settings) (c : Consequence) : List String :=
  match c.measure with
  | .throttle t => t.keys settings c.subject
  | .blockPromotion _ => [promotionKey c.subject.action.userId]
  | _ => []

/-- The flag that a consequence changes. -/
def flagKey? (c : Consequence) : Option String :=
  match c.measure with
  | .warn _ => some (warnedKey c.subject)
  | _ => none

variable {α : Type}

/-- A view of a ledger does not show what a consequence does to its counters and flags. -/
structure Hidden (view : Ledger → α) (settings : Settings) (c : Consequence) : Prop where
  counters : ∀ key ∈ c.counterKeys settings, ∀ (l : Ledger) (counter : Counter),
    view { l with counters := l.counters.insert key counter } = view l
  setFlag : ∀ key ∈ c.flagKey?, ∀ l : Ledger,
    view { l with flags := l.flags.insert key () } = view l
  clearFlag : ∀ key ∈ c.flagKey?, ∀ l : Ledger,
    view { l with flags := l.flags.erase key } = view l

variable {view : Ledger → α} {settings : Settings}

theorem view_countHits (seconds : Nat) {keys : List String}
    (hidden : ∀ key ∈ keys, ∀ (l : Ledger) (counter : Counter),
      view { l with counters := l.counters.insert key counter } = view l)
    (scene : Scene Ledger) :
    view ((Throttle.countHits Ledger.platform seconds keys).run.run scene).2.platform =
      view scene.platform := by
  induction keys generalizing scene with
  | nil => rfl
  | cons key keys ih =>
      rw [Throttle.countHits, discard_bind, run_bind, Scene.run_lift, Ledger.run_increment]
      by_cases late : Ledger.lastSecond < scene.platform.now + seconds
      · rw [if_pos late]
      · rw [if_neg late]
        dsimp only
        rw [ih fun other mem => hidden other (List.mem_cons_of_mem _ mem)]
        exact hidden key List.mem_cons_self _ _

/-- What is not shown of a consequence does not change what is shown. -/
theorem view_carryOut (unaffected : Ledger.Unaffected view) {c : Consequence}
    (hidden : Hidden view settings c) (scene : Scene Ledger) :
    view ((c.carryOut Ledger.platform settings).run.run scene).2.platform =
      view scene.platform := by
  rcases c with ⟨s, measure, suppresses⟩
  cases measure with
  | throttle t =>
      cases suppresses with
      | none => rfl
      | some engaged =>
          have counted := view_countHits t.seconds hidden.counters scene
          change view ((Throttle.countHits Ledger.platform t.seconds (t.keys settings s) >>=
            fun _ => pure !engaged).run.run scene).2.platform = _
          rw [run_bind]
          rw [counterKeys] at counted
          generalize (Throttle.countHits Ledger.platform t.seconds
            (t.keys settings s)).run.run scene = result at counted ⊢
          rcases result with ⟨outcome, after⟩
          cases outcome <;> exact counted
  | warn message =>
      cases suppresses with
      | none => rfl
      | some warns =>
          cases warns with
          | true => exact hidden.setFlag _ rfl _
          | false => exact hidden.clearFlag _ rfl _
  | disallow message => rfl
  | block seconds blocksTalk => exact unaffected scene.platform _ _ _
  | rangeBlock =>
      unfold carryOut
      dsimp only
      cases s.action.address with
      | none => rfl
      | some address => exact unaffected scene.platform _ _ _
  | degroup =>
      unfold carryOut
      dsimp only
      split
      · exact unaffected scene.platform _ _ _
      · rfl
  | blockPromotion seconds =>
      unfold carryOut
      dsimp only
      split
      · rw [run_bind, Scene.run_lift, Ledger.run_setCount]
        by_cases late : Ledger.lastSecond <
            scene.platform.now + seconds.getD settings.promotionBlockSeconds
        · rw [if_pos late]
        · rw [if_neg late]
          exact hidden.counters _ List.mem_cons_self _ _
      · rfl
  | tag tags => rfl
  | custom name params => exact unaffected scene.platform _ _ _

theorem hidden_now (settings : Settings) (c : Consequence) : Hidden Ledger.now settings c where
  counters := fun _ _ _ _ => rfl
  setFlag := fun _ _ _ => rfl
  clearFlag := fun _ _ _ => rfl

theorem hidden_audit (settings : Settings) (c : Consequence) :
    Hidden Ledger.audit settings c where
  counters := fun _ _ _ _ => rfl
  setFlag := fun _ _ _ => rfl
  clearFlag := fun _ _ _ => rfl

/-- A counter does not show what is done to other ones. -/
theorem hidden_counter {c : Consequence} {key : String} (other : key ∉ c.counterKeys settings) :
    Hidden (fun l => l.counters.find? key) settings c where
  counters := by
    intro changed mem l counter
    rw [Dictionary.find?_insert, if_neg]
    rintro rfl
    exact other mem
  setFlag := fun _ _ _ => rfl
  clearFlag := fun _ _ _ => rfl

/-- A flag does not show what is done to other ones. -/
theorem hidden_flag {c : Consequence} {key : String} (other : key ∉ c.flagKey?) :
    Hidden (fun l => l.flags.contains key) settings c := by
  have different : ∀ changed ∈ c.flagKey?, key ≠ changed := by
    rintro _ mem rfl
    exact other mem
  constructor
  case counters => exact fun _ _ _ _ => rfl
  case setFlag =>
    intro changed mem l
    rw [Dictionary.contains, Dictionary.find?_insert, if_neg (different changed mem)]
    rfl
  case clearFlag =>
    intro changed mem l
    rw [Dictionary.contains, Dictionary.find?_erase, if_neg (different changed mem)]
    rfl

end Consequence

/-- Logging hits changes nothing but the log. -/
theorem Execution.view_logHits {α : Type} {view : Ledger → α} (bare : Ledger.Bare view)
    (action : Action) (dump : Option String) (r : ExecutionResult) (fs : List Filter)
    (scene : Scene Ledger) :
    view ((logHits Ledger.platform action dump r fs).run scene).2.platform =
      view scene.platform := by
  induction fs generalizing scene with
  | nil => rfl
  | cons f fs ih =>
      rw [logHits]
      cases f.id with
      | none => exact ih scene
      | some id => exact (ih _).trans (bare scene.platform _ _ _ _ _)

end EditGuard
