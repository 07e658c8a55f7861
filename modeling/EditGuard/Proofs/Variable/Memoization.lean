import EditGuard.Proofs.Variable.Valuation

/-!
# Memory that keeps values

A read keeps the values of the variables that it has computed, also when it fails in
the end.  If the answers of the host depend on the questions only, then nothing but the
values of pending variables is kept, and no read can tell which of them were kept before.
-/

namespace EditGuard.Variable

/-! ## What memory learns -/

/-- From one state of the variables to another, pending variables have got the values
that they have among the variables `vs`; nothing else has changed. -/
def Learns (answer : Request → Except Fault Value) (vs before after : Variables) : Prop :=
  ∀ name, after.find? name = before.find? name ∨
    ∃ c v, before.find? name = some (.pending c) ∧ after.find? name = some (.value v) ∧
      ∀ mode, valueOf answer vs vs.pendingNames name mode = .ok v

namespace Learns

variable {answer : Request → Except Fault Value} {vs before middle after : Variables}

theorem refl : Learns answer vs before before :=
  fun _ => .inl rfl

theorem trans (first : Learns answer vs before middle) (second : Learns answer vs middle after) :
    Learns answer vs before after := by
  intro name
  rcases second name with same | ⟨c, v, pending, found, value⟩
  · rw [same]
    exact first name
  · rcases first name with same | ⟨_, w, _, learnt, _⟩
    · rw [same] at pending
      exact .inr ⟨c, v, pending, found, value⟩
    · rw [learnt] at pending
      cases pending

/-- A variable that is pending still has been pending before. -/
theorem pending (learns : Learns answer vs before after) {name : String} {c : Call}
    (found : after.find? name = some (.pending c)) : before.find? name = some (.pending c) := by
  rcases learns name with same | ⟨_, v, _, learnt, _⟩
  · rw [← same, found]
  · rw [learnt] at found
    cases found

theorem has (learns : Learns answer vs before after) (name : String) :
    after.has name = before.has name := by
  rw [Variables.has, Variables.has, Variables.entry?, Variables.entry?]
  rcases learns (fold name) with same | ⟨c, v, pending, found, _⟩
  · rw [same]
  · rw [pending, found]
    rfl

/-- A pending variable is given its value. -/
theorem insert (learns : Learns answer vs before after) {name : String} {c : Call} {v : Value}
    (pending : before.find? name = some (.pending c))
    (value : ∀ mode, valueOf answer vs vs.pendingNames name mode = .ok v) :
    Learns answer vs before (after.insert name (.value v)) := by
  intro other
  rw [Dictionary.find?_insert]
  by_cases same : other = name
  · rw [if_pos same, same]
    exact .inr ⟨c, v, pending, rfl, value⟩
  · rw [if_neg same]
    exact learns other

end Learns

/-! ## Scripts -/

namespace Script

variable {read : String → ReadMode → Reading Value}
  {value : String → ReadMode → Except Fault Value} {Good : Memory → Prop}

theorem Answers.run_eq {answer : Except Fault Value} {script : Script}
    (answers : script.Answers answer) (m : Memory) :
    ((script.run read).run.run m).1 = answer := by
  induction script generalizing m with
  | done v => exact answers.symm
  | fail f => exact answers.symm
  | read name mode next ih =>
      rw [run_script_read]
      exact ih _ (answers _) _

/-- If reads give nothing but the values of variables, then so does a strict script. -/
theorem Strict.eval_of_run (keeps : ∀ name mode m, Good m → Good ((read name mode).run.run m).2)
    (reads : ∀ name mode m v, Good m → ((read name mode).run.run m).1 = .ok v →
      value name mode = .ok v)
    {script : Script} (strict : script.Strict) {m : Memory} (good : Good m) {v : Value}
    (ended : ((script.run read).run.run m).1 = .ok v) : script.eval value = .ok v := by
  induction script generalizing m with
  | done w => exact ended
  | fail f => contradiction
  | read name mode next ih =>
      rw [run_script_read] at ended
      cases outcome : ((read name mode).run.run m).1 with
      | ok w =>
          rw [outcome] at ended
          rw [eval, reads name mode m w good outcome]
          exact ih (.ok w) (strict.2 w) (keeps name mode m good) ended
      | error f =>
          rw [outcome, strict.1 f] at ended
          contradiction

/-- If reads agree with the values of variables, then so does a strict script.  Where they
agree only on variables that have values, the script has to have one. -/
theorem Strict.run_eq_eval {always : Prop}
    (keeps : ∀ name mode m, Good m → Good ((read name mode).run.run m).2)
    (reads : ∀ name mode m, Good m → (always ∨ ∃ v, value name mode = .ok v) →
      ((read name mode).run.run m).1 = value name mode)
    {script : Script} (strict : script.Strict) {m : Memory} (good : Good m)
    (enough : always ∨ ∃ v, script.eval value = .ok v) :
    ((script.run read).run.run m).1 = script.eval value := by
  induction script generalizing m with
  | done w => rfl
  | fail f => rfl
  | read name mode next ih =>
      have first : always ∨ ∃ v, value name mode = .ok v := by
        rcases enough with all | ⟨v, ended⟩
        · exact .inl all
        · obtain ⟨w, outcome, -⟩ := strict.eval_read ended
          exact .inr ⟨w, outcome⟩
      rw [run_script_read, reads name mode m good first]
      rw [eval] at enough ⊢
      cases outcome : value name mode with
      | ok w =>
          rw [outcome] at enough
          exact ih (.ok w) (strict.2 w) (keeps name mode m good) enough
      | error f =>
          rw [strict.1 f]
          rfl

end Script

/-! ## Calls -/

variable {host : Host} {answer : Request → Except Fault Value}

/-- What the host gives as a script is, for an intrinsic method, the script of the call, and
otherwise has the answer of the host as its outcome. -/
theorem scriptFor_cases (answers : host.Answers answer) (c : Call) (m : Memory) :
    (scriptFor host c m).1 = c.script answer ∨
      ∃ outcome, (scriptFor host c m).1.Answers outcome ∧
        ∀ value, (c.script answer).eval value = outcome := by
  rcases c with ⟨method, params⟩
  cases method with
  | intrinsic i => exact .inl rfl
  | host method =>
      exact .inr ⟨_, answers m.requests ⟨method, params⟩, fun value => Script.eval_ofAnswer value _⟩

/-- If reads give nothing but the values of variables, then so does a call. -/
theorem eval_of_run_scriptFor (answers : host.Answers answer)
    {read : String → ReadMode → Reading Value} {value : String → ReadMode → Except Fault Value}
    {Good : Memory → Prop}
    (keeps : ∀ name mode m, Good m → Good ((read name mode).run.run m).2)
    (reads : ∀ name mode m v, Good m → ((read name mode).run.run m).1 = .ok v →
      value name mode = .ok v)
    (c : Call) (asked : Memory) {m : Memory} (good : Good m) {v : Value}
    (ended : (((scriptFor host c asked).1.run read).run.run m).1 = .ok v) :
    (c.script answer).eval value = .ok v := by
  rcases scriptFor_cases answers c asked with same | ⟨outcome, constant, evaluated⟩
  · rw [same] at ended
    exact (c.script_strict answer).eval_of_run keeps reads good ended
  · rw [evaluated, ← constant.run_eq m, ended]

/-- If reads agree with the values of variables, then so does a call. -/
theorem run_scriptFor_eq_eval (answers : host.Answers answer)
    {read : String → ReadMode → Reading Value} {value : String → ReadMode → Except Fault Value}
    {Good : Memory → Prop} {always : Prop}
    (keeps : ∀ name mode m, Good m → Good ((read name mode).run.run m).2)
    (reads : ∀ name mode m, Good m → (always ∨ ∃ v, value name mode = .ok v) →
      ((read name mode).run.run m).1 = value name mode)
    (c : Call) (asked : Memory) {m : Memory} (good : Good m)
    (enough : always ∨ ∃ v, (c.script answer).eval value = .ok v) :
    (((scriptFor host c asked).1.run read).run.run m).1 = (c.script answer).eval value := by
  rcases scriptFor_cases answers c asked with same | ⟨outcome, constant, evaluated⟩
  · rw [same]
    exact (c.script_strict answer).run_eq_eval keeps reads good enough
  · rw [evaluated, constant.run_eq m]

/-! ## Reads -/

variable {vs : Variables}

/-- A call whose variables have values when none is being computed gives the value of the
variable that it computes. -/
theorem valueOf_of_eval {name : String} {c : Call} {v : Value}
    (found : vs.find? name = some (.pending c))
    (value : (c.script answer).eval (fun other mode =>
      valueOf answer vs vs.pendingNames (mode.target other) mode) = .ok v) (mode : ReadMode) :
    valueOf answer vs vs.pendingNames name mode = .ok v := by
  have isIdle : name ∈ vs.pendingNames := mem_pendingNames.mpr ⟨c, found⟩
  have distinct := nodup_pendingNames vs
  by_cases settled : Settled answer vs name
  · obtain ⟨w, settled⟩ := settled
    have computed := settled mode
    rw [valueOf_of_idle found isIdle] at computed
    have more := (c.script_strict answer).eval_of_le
      (fun other mode u read => valueOf_of_subset (distinct.erase name)
        (fun _ mem => List.mem_of_mem_erase mem) read) computed
    rw [value] at more
    rw [settled mode, more]
  · -- No variable that has a value needs this one, so it may as well be computed.
    rw [valueOf_of_idle found isIdle]
    refine (c.script_strict answer).eval_of_le (fun other mode u read => ?_) value
    refine valueOf_of_settled distinct (fun _ mem => mem) ?_ read
    intro another wasIdle has
    refine (List.mem_erase_of_ne ?_).mpr wasIdle
    rintro rfl
    exact settled has

theorem valueOf_of_remembered {idle : List String} {name : String} {v : Value} {m : Memory}
    (remembers : Learns answer vs vs m.vars) (found : m.vars.find? name = some (.value v)) :
    (∀ mode, valueOf answer vs idle name mode = .ok v) ∨
      ∀ mode, valueOf answer vs vs.pendingNames name mode = .ok v := by
  rcases remembers name with same | ⟨c, w, _, learnt, value⟩
  · rw [same] at found
    exact .inl fun mode => valueOf_of_value found
  · rw [learnt] at found
    cases found
    exact .inr value

theorem find?_of_forgotten {name : String} {m : Memory} (remembers : Learns answer vs vs m.vars)
    (missing : m.vars.find? name = none) : vs.find? name = none := by
  rcases remembers name with same | ⟨c, w, _, learnt, _⟩
  · rw [← same, missing]
  · rw [learnt] at missing
    cases missing

/-- If reads learn and give values only, then computing a pending variable does, too. -/
theorem compute_learns (answers : host.Answers answer) {read : String → ReadMode → Reading Value}
    {name : String} {c : Call} {m : Memory} (remembers : Learns answer vs vs m.vars)
    (found : m.vars.find? name = some (.pending c))
    (keeps : ∀ other mode n, Learns answer vs m.vars n.vars →
      Learns answer vs m.vars ((read other mode).run.run n).2.vars)
    (reads : ∀ other (mode : ReadMode) n v, Learns answer vs m.vars n.vars →
      ((read other mode).run.run n).1 = .ok v →
        valueOf answer vs vs.pendingNames (mode.target other) mode = .ok v) :
    Learns answer vs m.vars ((compute host read name c).run.run m).2.vars ∧
      ∀ v, ((compute host read name c).run.run m).1 = .ok v →
        ∀ mode, valueOf answer vs vs.pendingNames name mode = .ok v := by
  have start : Learns answer vs m.vars (scriptFor host c m).2.vars := by
    rw [scriptFor_vars]
    exact .refl
  have learnt := Script.run_keeps keeps (scriptFor host c m).1 start
  have value := fun v => eval_of_run_scriptFor answers keeps reads c m start (v := v)
  rw [run_compute]
  rcases ran : ((scriptFor host c m).1.run read).run.run (scriptFor host c m).2 with ⟨outcome, t⟩
  rw [ran] at learnt value
  cases outcome with
  | ok w =>
      have known := valueOf_of_eval (remembers.pending found) (value w rfl)
      refine ⟨learnt.insert found known, fun v same => ?_⟩
      cases same
      exact known
  | error f =>
      refine ⟨learnt, fun v same => ?_⟩
      cases same

/-- A read keeps nothing but values of pending variables and gives nothing but values. -/
theorem readKept_learns (answers : host.Answers answer) (idle : List String) (name : String)
    (mode : ReadMode) (m : Memory) (remembers : Learns answer vs vs m.vars) :
    Learns answer vs m.vars ((readKept host idle name mode).run.run m).2.vars ∧
      ∀ v, ((readKept host idle name mode).run.run m).1 = .ok v →
        valueOf answer vs vs.pendingNames name mode = .ok v := by
  induction idle, name, mode using readKept.induct generalizing m with
  | case1 idle name mode ih =>
      rw [run_readKept]
      cases found : m.vars.find? name with
      | none =>
          refine ⟨.refl, fun v ended => ?_⟩
          rw [valueOf_of_none (find?_of_forgotten remembers found)]
          exact ended
      | some entry =>
          cases entry with
          | value w =>
              refine ⟨.refl, fun v ended => ?_⟩
              cases ended
              rcases valueOf_of_remembered remembers found with value | value
              · exact value mode
              · exact value mode
          | pending c =>
              by_cases isIdle : name ∈ idle
              · simp only [if_pos isIdle]
                obtain ⟨learnt, value⟩ := compute_learns answers remembers found
                  (fun other mode n learnt =>
                    learnt.trans (ih isIdle other mode n (remembers.trans learnt)).1)
                  (fun other mode n w learnt =>
                    (ih isIdle other mode n (remembers.trans learnt)).2 w)
                exact ⟨learnt, fun v ended => value v ended mode⟩
              · simp only [if_neg isIdle]
                refine ⟨.refl, fun v ended => ?_⟩
                cases ended

/-- No variable that has a value is being computed, unless the variable `name` has one
nevertheless. -/
def Unhindered (answer : Request → Except Fault Value) (vs : Variables) (idle : List String)
    (name : String) (mode : ReadMode) : Prop :=
  (∀ other ∈ vs.pendingNames, Settled answer vs other → other ∈ idle) ∨
    ∃ v, valueOf answer vs idle name mode = .ok v

theorem Unhindered.valueOf_eq {idle : List String} {name : String} {mode : ReadMode} {v : Value}
    (unhindered : Unhindered answer vs idle name mode) (distinct : idle.Nodup)
    (pending : idle ⊆ vs.pendingNames)
    (value : valueOf answer vs vs.pendingNames name mode = .ok v) :
    valueOf answer vs idle name mode = .ok v := by
  rcases unhindered with all | ⟨w, known⟩
  · exact valueOf_of_settled (nodup_pendingNames vs) (fun _ mem => mem) all value
  · rw [valueOf_of_subset distinct pending known] at value
    rw [known, value]

/-- While a pending variable is computed, what its computation reads is not hindered. -/
theorem Unhindered.step {idle : List String} {name : String} {mode : ReadMode} {c : Call}
    (unhindered : Unhindered answer vs idle name mode) (distinct : idle.Nodup)
    (pending : idle ⊆ vs.pendingNames) (found : vs.find? name = some (.pending c))
    (isIdle : name ∈ idle) :
    (∀ other ∈ vs.pendingNames, Settled answer vs other → other ∈ idle.erase name) ∨
      ∃ v, (c.script answer).eval (fun other mode =>
        valueOf answer vs (idle.erase name) (mode.target other) mode) = .ok v := by
  have computed : valueOf answer vs idle name mode = _ := valueOf_of_idle found isIdle
  rw [← computed]
  by_cases settled : Settled answer vs name
  · obtain ⟨v, value⟩ := settled
    exact .inr ⟨v, unhindered.valueOf_eq distinct pending (value mode)⟩
  · rcases unhindered with all | known
    · left
      intro other mem has
      refine (List.mem_erase_of_ne ?_).mpr (all other mem has)
      rintro rfl
      exact settled has
    · exact .inr known

/-- Whatever was kept before, a read gives what the variable has without anything
kept.  The idle variables that are still pending have to be the same. -/
theorem readKept_eq_valueOf (answers : host.Answers answer) {idle others : List String}
    {name : String} {mode : ReadMode} {m : Memory} (remembers : Learns answer vs vs m.vars)
    (distinct : idle.Nodup) (othersDistinct : others.Nodup) (pending : others ⊆ vs.pendingNames)
    (same : ∀ other c, m.vars.find? other = some (.pending c) → (other ∈ idle ↔ other ∈ others))
    (unhindered : Unhindered answer vs others name mode) :
    ((readKept host idle name mode).run.run m).1 = valueOf answer vs others name mode := by
  induction idle, name, mode using readKept.induct generalizing others m with
  | case1 idle name mode ih =>
      rw [run_readKept]
      cases found : m.vars.find? name with
      | none => rw [valueOf_of_none (find?_of_forgotten remembers found)]
      | some entry =>
          cases entry with
          | value w =>
              rcases valueOf_of_remembered remembers found with value | value
              · rw [value]
              · rw [unhindered.valueOf_eq othersDistinct pending (value mode)]
          | pending c =>
              have foundFirst := remembers.pending found
              by_cases isIdle : name ∈ idle
              · have isOther := (same name c found).mp isIdle
                have start : Learns answer vs m.vars (scriptFor host c m).2.vars := by
                  rw [scriptFor_vars]
                  exact .refl
                simp only [if_pos isIdle]
                rw [compute_outcome, valueOf_of_idle foundFirst isOther]
                have keeps : ∀ other (mode : ReadMode) n, Learns answer vs m.vars n.vars →
                    Learns answer vs m.vars ((readKept host (idle.erase name)
                      (mode.target other) mode).run.run n).2.vars := by
                  intro other mode n learnt
                  exact learnt.trans (readKept_learns answers _ _ _ n (remembers.trans learnt)).1
                refine run_scriptFor_eq_eval answers keeps ?_ c m start
                  (unhindered.step othersDistinct pending foundFirst isOther)
                intro other mode n learnt unhindered
                refine ih isIdle other mode (remembers.trans learnt) (distinct.erase name)
                  (othersDistinct.erase name)
                  (fun another mem => pending (List.mem_of_mem_erase mem)) ?_ unhindered
                intro another d found
                rw [distinct.mem_erase_iff, othersDistinct.mem_erase_iff,
                  same another d (learnt.pending found)]
              · have notOther := fun isOther => isIdle ((same name c found).mpr isOther)
                simp only [if_neg isIdle]
                rw [valueOf_of_not_idle foundFirst notOther]

theorem read_learns (answers : host.Answers answer) (name : String) (mode : ReadMode) {m : Memory}
    (remembers : Learns answer vs vs m.vars) :
    Learns answer vs vs ((read host name mode).run.run m).2.vars :=
  remembers.trans (readKept_learns answers _ _ _ m remembers).1

/-- What a read gives does not depend on what was kept. -/
theorem read_eq_valueOf (answers : host.Answers answer) (name : String) (mode : ReadMode)
    {m : Memory} (remembers : Learns answer vs vs m.vars) :
    ((read host name mode).run.run m).1 =
      valueOf answer vs vs.pendingNames (mode.target name) mode := by
  have same : ∀ other c, m.vars.find? other = some (.pending c) →
      (other ∈ m.vars.pendingNames ↔ other ∈ vs.pendingNames) := by
    intro other c found
    exact iff_of_true (mem_pendingNames.mpr ⟨c, found⟩)
      (mem_pendingNames.mpr ⟨c, remembers.pending found⟩)
  exact readKept_eq_valueOf answers remembers (nodup_pendingNames m.vars)
    (nodup_pendingNames vs) (fun _ mem => mem) same (.inl fun _ mem _ => mem)

end EditGuard.Variable
