import EditGuard.Proofs.Consequence.Questions

/-!
# What is left of the consequences of a filter

A throttle that is engaged leaves nothing but itself; a warning that was not shown yet
leaves itself and the throttle.  A consequence that could not be asked is dropped.
-/

namespace EditGuard

variable {σ : Type}

namespace Consequence

/-! ## The consequences that are left -/

/-- A throttle that has had its hits, by the answers of the consequences. -/
def Engages (answer : Consequence → Option Bool) (c : Consequence) : Prop :=
  c.kind = .throttle ∧ answer c = some true

/-- A warning that was not shown yet. -/
def Warns (answer : Consequence → Option Bool) (c : Consequence) : Prop :=
  c.kind = .warn ∧ answer c = some true

instance (answer : Consequence → Option Bool) : DecidablePred (Engages answer) :=
  fun c => inferInstanceAs (Decidable (c.kind = .throttle ∧ answer c = some true))

instance (answer : Consequence → Option Bool) : DecidablePred (Warns answer) :=
  fun c => inferInstanceAs (Decidable (c.kind = .warn ∧ answer c = some true))

/-- The consequences of a filter that are left, by the answers that they give. -/
def left (answer : Consequence → Option Bool) (built : List Consequence) : List Consequence :=
  if ∃ c ∈ built, Engages answer c then built.filter fun c => c.kind == .throttle
  else if ∃ c ∈ built, Warns answer c then
    built.filter fun c => c.kind.isDisabler && (answer c).isSome
  else built.filter fun c => !c.kind.isDisabler || (answer c).isSome

/-- A consequence that keeps its answer, if it may suppress others. -/
def answered (answer : Consequence → Option Bool) (c : Consequence) : Consequence :=
  if c.kind.isDisabler then { c with suppresses := answer c } else c

/-- What is left depends on the answers of the consequences alone. -/
theorem left_congr {first second : Consequence → Option Bool} {built : List Consequence}
    (same : ∀ c ∈ built, first c = second c) : left first built = left second built := by
  have engages : (∃ c ∈ built, Engages first c) ↔ ∃ c ∈ built, Engages second c := by
    refine exists_congr fun c => and_congr_right fun mem => ?_
    rw [Engages, Engages, same c mem]
  have warns : (∃ c ∈ built, Warns first c) ↔ ∃ c ∈ built, Warns second c := by
    refine exists_congr fun c => and_congr_right fun mem => ?_
    rw [Warns, Warns, same c mem]
  have disablers : built.filter (fun c => c.kind.isDisabler && (first c).isSome) =
      built.filter fun c => c.kind.isDisabler && (second c).isSome :=
    List.filter_congr fun c mem => by rw [same c mem]
  have all : built.filter (fun c => !c.kind.isDisabler || (first c).isSome) =
      built.filter fun c => !c.kind.isDisabler || (second c).isSome :=
    List.filter_congr fun c mem => by rw [same c mem]
  simp only [left, engages, warns, disablers, all]

theorem left_sublist (answer : Consequence → Option Bool) (built : List Consequence) :
    (left answer built).Sublist built := by
  unfold left
  split
  · exact List.filter_sublist
  · split
    · exact List.filter_sublist
    · exact List.filter_sublist

/-- A throttle that gave an answer is always left. -/
theorem mem_left_of_throttle {answer : Consequence → Option Bool} {built : List Consequence}
    {c : Consequence} (mem : c ∈ built) (isThrottle : c.kind = .throttle)
    (isSome : (answer c).isSome) : c ∈ left answer built := by
  unfold left
  split
  · exact List.mem_filter.mpr ⟨mem, beq_iff_eq.mpr isThrottle⟩
  · split
    · exact List.mem_filter.mpr ⟨mem, by rw [isThrottle, isSome]; rfl⟩
    · exact List.mem_filter.mpr ⟨mem, by rw [isSome, Bool.or_true]⟩

/-- A consequence that may suppress others is left only if it gave an answer. -/
theorem isSome_of_mem_left {answer : Consequence → Option Bool} {built : List Consequence}
    {c : Consequence} (single : ∀ d ∈ built, d.kind = .throttle → c.kind = .throttle → d = c)
    (mem : c ∈ left answer built) (isDisabler : c.kind.isDisabler = true) :
    (answer c).isSome := by
  unfold left at mem
  split at mem
  · rename_i engages
    obtain ⟨t, inside, isThrottle, engages⟩ := engages
    have same := single t inside isThrottle (beq_iff_eq.mp (List.mem_filter.mp mem).2)
    rw [← same, engages]
    rfl
  · split at mem
    · exact ((Bool.and_eq_true _ _).mp (List.mem_filter.mp mem).2).2
    · have kept := (List.mem_filter.mp mem).2
      rw [isDisabler] at kept
      exact kept

theorem run_precheck (p : Platform σ) (settings : Settings) (c : Consequence)
    (scene : Scene σ) :
    (c.precheck p settings).run.run scene =
      match (c.asksToSuppress p settings).run.run scene with
      | (.ok answer, t) =>
          (.ok (answer, if c.kind.isDisabler then { c with suppresses := some answer } else c), t)
      | (.error f, t) => (.error f, t) := by
  rw [precheck, run_bind]
  rcases (c.asksToSuppress p settings).run.run scene with ⟨outcome, t⟩
  cases outcome <;> rfl

end Consequence

namespace Execution

open Consequence (answerAt afterAsking left answered)

/-! ## Asking all -/

theorem run_askAll_cons (p : Platform σ) (settings : Settings) (kept : List Consequence)
    (c : Consequence) (cs : List Consequence) (scene : Scene σ) :
    (askAll p settings kept (c :: cs)).run scene =
      if c.kind.isDisabler = true then
        match c.answerAt p settings scene with
        | some true =>
            (kept.filter (·.kind.isDisabler) ++ [{ c with suppresses := some true }],
              c.afterAsking p settings scene)
        | some false =>
            (askAll p settings (kept ++ [{ c with suppresses := some false }]) cs).run
              (c.afterAsking p settings scene)
        | none => (askAll p settings kept cs).run (c.afterAsking p settings scene)
      else (askAll p settings (kept ++ [c]) cs).run scene := by
  rw [askAll]
  cases isDisabler : c.kind.isDisabler with
  | false => rfl
  | true =>
      simp only [Bool.not_true, Bool.false_eq_true, if_false, if_true, StateT.run_bind]
      rw [Consequence.run_precheck, Consequence.answerAt, Consequence.afterAsking, isDisabler]
      rcases (c.asksToSuppress p settings).run.run scene with ⟨outcome, t⟩
      cases outcome with
      | error f => rfl
      | ok answer =>
          cases answer with
          | true => rfl
          | false => rfl

/-! ## The order in which consequences are asked -/

/-- At most one throttle and one warning of a filter, and consequences that suppress
nothing. -/
structure Arranged (throttle? warn? : Option Consequence) (others : List Consequence) :
    Prop where
  throttle : ∀ c ∈ throttle?, c.kind = .throttle
  warn : ∀ c ∈ warn?, c.kind = .warn
  others : ∀ c ∈ others, c.kind.isDisabler = false

/-- The throttle is asked first, then the warning. -/
def arrange (throttle? warn? : Option Consequence) (others : List Consequence) :
    List Consequence :=
  throttle?.toList ++ (warn?.toList ++ others)

theorem run_askAll_others (p : Platform σ) (settings : Settings) (kept : List Consequence)
    {others : List Consequence} (plain : ∀ c ∈ others, c.kind.isDisabler = false)
    (scene : Scene σ) : (askAll p settings kept others).run scene = (kept ++ others, scene) := by
  induction others generalizing kept with
  | nil => rw [List.append_nil, askAll]; rfl
  | cons c cs ih =>
      have isPlain := plain c List.mem_cons_self
      rw [run_askAll_cons, isPlain,
        ih (kept ++ [c]) fun c mem => plain c (List.mem_cons_of_mem _ mem), List.append_assoc]
      rfl

namespace Arranged

variable {throttle? warn? : Option Consequence} {others : List Consequence}
  {answer : Consequence → Option Bool}

theorem mem_arrange (arranged : Arranged throttle? warn? others) {c : Consequence}
    (mem : c ∈ arrange throttle? warn? others) :
    (c ∈ throttle? ∧ c.kind = .throttle) ∨ (c ∈ warn? ∧ c.kind = .warn) ∨
      (c ∈ others ∧ c.kind.isDisabler = false) := by
  rcases List.mem_append.mp mem with mem | mem
  · have inside := Option.mem_toList.mp mem
    exact .inl ⟨inside, arranged.throttle c inside⟩
  · rcases List.mem_append.mp mem with mem | mem
    · have inside := Option.mem_toList.mp mem
      exact .inr (.inl ⟨inside, arranged.warn c inside⟩)
    · exact .inr (.inr ⟨mem, arranged.others c mem⟩)

theorem mem_throttle (arranged : Arranged throttle? warn? others) {c : Consequence}
    (mem : c ∈ arrange throttle? warn? others) (isThrottle : c.kind = .throttle) :
    c ∈ throttle? := by
  rcases arranged.mem_arrange mem with ⟨inside, _⟩ | ⟨_, isWarn⟩ | ⟨_, isPlain⟩
  · exact inside
  · rw [isThrottle] at isWarn
    contradiction
  · rw [isThrottle] at isPlain
    contradiction

theorem mem_warn (arranged : Arranged throttle? warn? others) {c : Consequence}
    (mem : c ∈ arrange throttle? warn? others) (isWarn : c.kind = .warn) : c ∈ warn? := by
  rcases arranged.mem_arrange mem with ⟨_, isThrottle⟩ | ⟨inside, _⟩ | ⟨_, isPlain⟩
  · rw [isWarn] at isThrottle
    contradiction
  · exact inside
  · rw [isWarn] at isPlain
    contradiction

theorem map_others (arranged : Arranged throttle? warn? others) :
    others.map (answered answer) = others := by
  have same : others.map (answered answer) = others.map id := by
    refine List.map_congr_left fun c mem => ?_
    rw [answered, arranged.others c mem]
    rfl
  rw [same, List.map_id]

theorem not_engages (arranged : Arranged throttle? warn? others)
    (disengaged : ∀ c ∈ throttle?, answer c ≠ some true) :
    ¬ ∃ c ∈ arrange throttle? warn? others, Consequence.Engages answer c := by
  rintro ⟨c, mem, isThrottle, engages⟩
  exact disengaged c (arranged.mem_throttle mem isThrottle) engages

theorem not_warns (arranged : Arranged throttle? warn? others)
    (shown : ∀ c ∈ warn?, answer c ≠ some true) :
    ¬ ∃ c ∈ arrange throttle? warn? others, Consequence.Warns answer c := by
  rintro ⟨c, mem, isWarn, warns⟩
  exact shown c (arranged.mem_warn mem isWarn) warns

/-- An engaged throttle is left alone. -/
theorem left_of_engages {t : Consequence} (arranged : Arranged (some t) warn? others)
    (engages : answer t = some true) :
    left answer (arrange (some t) warn? others) = [t] := by
  have isThrottle := arranged.throttle t rfl
  have some_engages : ∃ c ∈ arrange (some t) warn? others, Consequence.Engages answer c :=
    ⟨t, List.mem_cons_self, isThrottle, engages⟩
  have later : (warn?.toList ++ others).filter (fun c => c.kind == .throttle) = [] := by
    rw [List.filter_eq_nil_iff]
    intro c mem isThrottle
    have throttles : c.kind = .throttle := beq_iff_eq.mp isThrottle
    rcases List.mem_append.mp mem with mem | mem
    · have isWarn := arranged.warn c (Option.mem_toList.mp mem)
      rw [isWarn] at throttles
      contradiction
    · have isPlain := arranged.others c mem
      rw [throttles] at isPlain
      contradiction
  rw [left, if_pos some_engages]
  simp [arrange, isThrottle, later]

/-- A warning that was not shown yet is left with the throttle. -/
theorem left_of_warns {w : Consequence} (arranged : Arranged throttle? (some w) others)
    (disengaged : ∀ c ∈ throttle?, answer c ≠ some true) (warns : answer w = some true) :
    left answer (arrange throttle? (some w) others) =
      throttle?.toList.filter (fun c => (answer c).isSome) ++ [w] := by
  have isWarn := arranged.warn w rfl
  have some_warns : ∃ c ∈ arrange throttle? (some w) others, Consequence.Warns answer c :=
    ⟨w, List.mem_append_right _ List.mem_cons_self, isWarn, warns⟩
  have first : throttle?.toList.filter (fun c => c.kind.isDisabler && (answer c).isSome) =
      throttle?.toList.filter (fun c => (answer c).isSome) := by
    refine List.filter_congr fun c mem => ?_
    rw [arranged.throttle c (Option.mem_toList.mp mem)]
    rfl
  have later : others.filter (fun c => c.kind.isDisabler && (answer c).isSome) = [] := by
    rw [List.filter_eq_nil_iff]
    intro c mem
    rw [arranged.others c mem]
    exact Bool.false_ne_true
  have kept : (w.kind.isDisabler && (answer w).isSome) = true := by
    rw [isWarn, warns]
    rfl
  rw [left, if_neg (arranged.not_engages disengaged), if_pos some_warns, arrange,
    List.filter_append, first, Option.toList_some, List.singleton_append]
  simp only [List.filter_cons, kept, if_true, later]

/-- Otherwise everything is left that could be asked or suppresses nothing. -/
theorem left_of_neither (arranged : Arranged throttle? warn? others)
    (disengaged : ∀ c ∈ throttle?, answer c ≠ some true)
    (shown : ∀ c ∈ warn?, answer c ≠ some true) :
    left answer (arrange throttle? warn? others) =
      throttle?.toList.filter (fun c => (answer c).isSome) ++
        (warn?.toList.filter (fun c => (answer c).isSome) ++ others) := by
  have first : throttle?.toList.filter (fun c => !c.kind.isDisabler || (answer c).isSome) =
      throttle?.toList.filter (fun c => (answer c).isSome) := by
    refine List.filter_congr fun c mem => ?_
    rw [arranged.throttle c (Option.mem_toList.mp mem)]
    rfl
  have second : warn?.toList.filter (fun c => !c.kind.isDisabler || (answer c).isSome) =
      warn?.toList.filter (fun c => (answer c).isSome) := by
    refine List.filter_congr fun c mem => ?_
    rw [arranged.warn c (Option.mem_toList.mp mem)]
    rfl
  have later : others.filter (fun c => !c.kind.isDisabler || (answer c).isSome) = others := by
    rw [List.filter_eq_self]
    intro c mem
    rw [arranged.others c mem]
    rfl
  rw [left, if_neg (arranged.not_engages disengaged), if_neg (arranged.not_warns shown), arrange,
    List.filter_append, List.filter_append, first, second, later]

theorem without_throttle (arranged : Arranged throttle? warn? others) :
    Arranged none warn? others :=
  ⟨by rintro c ⟨⟩, arranged.warn, arranged.others⟩

/-- A throttle that is not engaged does not change what is left of the others. -/
theorem left_of_disengaged {t : Consequence} (arranged : Arranged (some t) warn? others)
    (disengaged : answer t ≠ some true) :
    left answer (arrange (some t) warn? others) =
      [t].filter (fun c => (answer c).isSome) ++ left answer (arrange none warn? others) := by
  have disengagedAll : ∀ c ∈ some t, answer c ≠ some true := by
    rintro c ⟨⟩
    exact disengaged
  have noThrottle : ∀ c ∈ (none : Option Consequence), answer c ≠ some true := by
    rintro c ⟨⟩
  by_cases warns : ∃ w ∈ warn?, answer w = some true
  · obtain ⟨w, isSome, warns⟩ := warns
    cases isSome
    rw [arranged.left_of_warns disengagedAll warns,
      arranged.without_throttle.left_of_warns noThrottle warns]
    rfl
  · have shown : ∀ c ∈ warn?, answer c ≠ some true := fun c mem warned => warns ⟨c, mem, warned⟩
    rw [arranged.left_of_neither disengagedAll shown,
      arranged.without_throttle.left_of_neither noThrottle shown]
    rfl

end Arranged

/-! ## What is asked leaves what is left -/

variable {warn? : Option Consequence} {others : List Consequence}

theorem answered_of_disabler {answer : Consequence → Option Bool} {c : Consequence} {b : Bool}
    (isDisabler : c.kind.isDisabler = true) (answers : answer c = some b) :
    answered answer c = { c with suppresses := some b } := by
  rw [answered, if_pos isDisabler, answers]

/-- The warning and the others are asked after the throttle. -/
theorem run_askAll_warn (p : Platform σ) (settings : Settings) {kept : List Consequence}
    (keptDisablers : ∀ c ∈ kept, c.kind.isDisabler = true)
    (arranged : Arranged none warn? others) {answer : Consequence → Option Bool}
    {scene : Scene σ} (answers : ∀ c ∈ warn?, answer c = c.answerAt p settings scene) :
    ((askAll p settings kept (arrange none warn? others)).run scene).1 =
      kept ++ (left answer (arrange none warn? others)).map (answered answer) := by
  have noThrottle : ∀ c ∈ (none : Option Consequence), answer c ≠ some true := by
    rintro c ⟨⟩
  cases warn? with
  | none =>
      have nothing : ∀ c ∈ (none : Option Consequence), answer c ≠ some true := noThrottle
      rw [arranged.left_of_neither noThrottle nothing]
      change ((askAll p settings kept others).run scene).1 = kept ++ others.map (answered answer)
      rw [run_askAll_others p settings kept arranged.others, arranged.map_others]
  | some w =>
      have isWarn := arranged.warn w rfl
      have isDisabler : w.kind.isDisabler = true := by
        rw [isWarn]
        rfl
      have answersW := answers w rfl
      obtain ⟨b, said⟩ : ∃ b, w.answerAt p settings scene = some b :=
        ⟨_, Consequence.answerAt_of_warn isWarn⟩
      rw [said] at answersW
      change ((askAll p settings kept (w :: others)).run scene).1 = _
      rw [run_askAll_cons, if_pos isDisabler, said]
      cases b with
      | true =>
          have keptAll : kept.filter (·.kind.isDisabler) = kept :=
            List.filter_eq_self.mpr keptDisablers
          rw [arranged.left_of_warns noThrottle answersW, keptAll]
          simp only [Option.toList_none, List.filter_nil, List.nil_append, List.map_cons,
            List.map_nil, answered_of_disabler isDisabler answersW]
      | false =>
          have shown : ∀ c ∈ some w, answer c ≠ some true := by
            rintro c ⟨⟩
            rw [answersW]
            exact fun same => by cases same
          rw [arranged.left_of_neither noThrottle shown]
          simp only [run_askAll_others p settings _ arranged.others]
          simp [answersW, answered_of_disabler isDisabler answersW, arranged.map_others]

/-- The answers of the consequences of a filter, of which the throttle is asked first. -/
def answers (p : Platform σ) (settings : Settings) (scene : Scene σ)
    (throttle? : Option Consequence) (c : Consequence) : Option Bool :=
  if c.kind = .throttle then c.answerAt p settings scene
  else c.answerAt p settings ((throttle?.map (afterAsking p settings scene)).getD scene)

theorem run_askAll_arranged (p : Platform σ) (settings : Settings) (scene : Scene σ)
    {throttle? : Option Consequence} (arranged : Arranged throttle? warn? others) :
    ((askAll p settings [] (arrange throttle? warn? others)).run scene).1 =
      (left (answers p settings scene throttle?) (arrange throttle? warn? others)).map
        (answered (answers p settings scene throttle?)) := by
  have warned : ∀ c ∈ warn?, answers p settings scene throttle? c =
      c.answerAt p settings ((throttle?.map (afterAsking p settings scene)).getD scene) := by
    intro c mem
    rw [answers, arranged.warn c mem]
    rfl
  cases throttle? with
  | none => exact run_askAll_warn p settings (by rintro c ⟨⟩) arranged warned
  | some t =>
      have isThrottle := arranged.throttle t rfl
      have isDisabler : t.kind.isDisabler = true := by
        rw [isThrottle]
        rfl
      have said : answers p settings scene (some t) t = t.answerAt p settings scene := by
        rw [answers, if_pos isThrottle]
      change ((askAll p settings [] (t :: arrange none warn? others)).run scene).1 = _
      rw [run_askAll_cons, if_pos isDisabler]
      cases outcome : t.answerAt p settings scene with
      | none =>
          rw [outcome] at said
          rw [arranged.left_of_disengaged (by rw [said]; exact fun same => by cases same)]
          simp only [List.filter_cons, said]
          exact run_askAll_warn p settings (by rintro c ⟨⟩) arranged.without_throttle warned
      | some b =>
          rw [outcome] at said
          cases b with
          | true =>
              rw [arranged.left_of_engages said]
              simp [answered_of_disabler isDisabler said]
          | false =>
              rw [arranged.left_of_disengaged (by rw [said]; exact fun same => by cases same)]
              have keptDisablers : ∀ c ∈ [{ t with suppresses := some false }],
                  c.kind.isDisabler = true := by
                intro c mem
                rw [List.mem_singleton.mp mem]
                exact isDisabler
              have rest := run_askAll_warn p settings keptDisablers arranged.without_throttle warned
              have first : [t].filter (fun c => (answers p settings scene (some t) c).isSome) =
                  [t] := by
                simp [said]
              rw [first, List.map_append, List.map_singleton, answered_of_disabler isDisabler said]
              exact rest

end Execution

end EditGuard
