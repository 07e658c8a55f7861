import EditGuard.Proofs.Variable.Reading

/-!
# The values of variables

If the answers of the host depend on the questions only, then the variables of an
action have values of their own, whatever was read before.  They are defined here
without keeping anything.

A variable that is read while others are being computed may turn out circular where it
would have a value otherwise.  Such a failure is the only difference: a variable that
has a value while others are being computed has it always.
-/

namespace EditGuard.Variable

/-! ## Scripts that need their variables -/

namespace Script

/-- The outcome of a script, given the values of the variables. -/
def eval (read : String → ReadMode → Except Fault Value) : Script → Except Fault Value
  | done v => .ok v
  | fail f => .error f
  | .read name mode next => (next (read name mode)).eval read

/-- A script that fails as soon as a variable that it reads has no value. -/
def Strict : Script → Prop
  | done _ | fail _ => True
  | .read _ _ next => (∀ f, next (.error f) = .fail f) ∧ ∀ v, (next (.ok v)).Strict

/-- A script whose outcome is the same whatever its variables are. -/
def Answers (answer : Except Fault Value) : Script → Prop
  | done v => answer = .ok v
  | fail f => answer = .error f
  | .read _ _ next => ∀ outcome, (next outcome).Answers answer

/-- The script that gives an answer at once. -/
def ofAnswer : Except Fault Value → Script
  | .ok v => done v
  | .error f => fail f

@[simp]
theorem eval_ofAnswer (read : String → ReadMode → Except Fault Value)
    (answer : Except Fault Value) : (ofAnswer answer).eval read = answer := by
  cases answer <;> rfl

theorem strict_ofAnswer (answer : Except Fault Value) : (ofAnswer answer).Strict := by
  cases answer <;> trivial

/-- The first variable of a strict script that has a value has got one. -/
theorem Strict.eval_read {read : String → ReadMode → Except Fault Value} {name : String}
    {mode : ReadMode} {next : Except Fault Value → Script} {v : Value}
    (strict : (Script.read name mode next).Strict)
    (value : (Script.read name mode next).eval read = .ok v) :
    ∃ w, read name mode = .ok w ∧ (next (.ok w)).eval read = .ok v := by
  rw [eval] at value
  cases outcome : read name mode with
  | ok w =>
      rw [outcome] at value
      exact ⟨w, rfl, value⟩
  | error f =>
      rw [outcome, strict.1 f] at value
      contradiction

/-- A strict script keeps its value when more variables have values. -/
theorem Strict.eval_of_le {read other : String → ReadMode → Except Fault Value}
    (below : ∀ name mode v, read name mode = .ok v → other name mode = .ok v)
    {script : Script} (strict : script.Strict) {v : Value}
    (value : script.eval read = .ok v) : script.eval other = .ok v := by
  induction script with
  | done w => exact value
  | fail f => exact value
  | read name mode next ih =>
      obtain ⟨w, first, rest⟩ := strict.eval_read value
      rw [eval, below name mode w first]
      exact ih (.ok w) (strict.2 w) rest

end Script

theorem readParam_strict (params : List Value) (i : Nat) {next : Value → Script}
    (rest : ∀ v, (next v).Strict) : (readParam params i next).Strict := by
  unfold readParam
  split
  · exact ⟨fun _ => rfl, rest⟩
  · trivial
  · trivial

theorem Intrinsic.script_strict (i : Intrinsic) (params : List Value) :
    (i.script params).Strict := by
  cases i <;> unfold Intrinsic.script
  case difference | subtraction | linksAdded | linksRemoved =>
    exact readParam_strict _ _ fun _ => readParam_strict _ _ fun _ => trivial
  case differenceSide | length | withoutTags | lines =>
    exact readParam_strict _ _ fun _ => trivial

/-! ## Hosts -/

/-- A host whose answers depend on the questions only: neither on earlier questions nor on
the variables that it reads. -/
def Host.Answers (host : Host) (answer : Request → Except Fault Value) : Prop :=
  ∀ earlier request, (host earlier request).Answers (answer request)

theorem Script.Answers.neverOverruns {answer : Except Fault Value} {script : Script}
    (answers : script.Answers answer) (never : ∀ o, answer ≠ .error (.overrun o)) :
    script.NeverOverruns := by
  induction script with
  | done v => trivial
  | fail f =>
      intro o same
      have failed : answer = .error f := answers
      rw [same] at failed
      exact never o failed
  | read name mode next ih =>
      intro outcome _
      exact ih outcome (answers outcome)

theorem Host.Answers.neverOverruns {host : Host} {answer : Request → Except Fault Value}
    (answers : host.Answers answer) (never : ∀ request o, answer request ≠ .error (.overrun o)) :
    host.NeverOverruns :=
  fun earlier request => (answers earlier request).neverOverruns (never request)

/-! ## Values -/

/-- What a call computes when the host answers questions in this way. -/
def Call.script (answer : Request → Except Fault Value) (c : Call) : Script :=
  match c.method with
  | .intrinsic i => i.script c.params
  | .host method => .ofAnswer (answer ⟨method, c.params⟩)

theorem Call.script_strict (answer : Request → Except Fault Value) (c : Call) :
    (c.script answer).Strict := by
  unfold Call.script
  split
  · exact Intrinsic.script_strict _ _
  · exact Script.strict_ofAnswer _

/-- The value of a variable, or why it has none.  `idle` holds the names of the pending
variables that are not being computed. -/
def valueOf (answer : Request → Except Fault Value) (vs : Variables) (idle : List String)
    (name : String) (mode : ReadMode) : Except Fault Value :=
  match vs.find? name with
  | some (.value v) => .ok v
  | none => if mode = .strict then .error (.defect (.unset name)) else .ok .undefined
  | some (.pending c) =>
      if _isIdle : name ∈ idle then
        (c.script answer).eval fun other mode =>
          valueOf answer vs (idle.erase name) (mode.target other) mode
      else .error (.defect (.circular name))
termination_by idle.length
decreasing_by
  have := List.length_erase_of_mem _isIdle
  have := List.length_pos_of_mem _isIdle
  omega

variable {answer : Request → Except Fault Value} {vs : Variables}

theorem valueOf_of_value {idle : List String} {name : String} {mode : ReadMode} {v : Value}
    (found : vs.find? name = some (.value v)) : valueOf answer vs idle name mode = .ok v := by
  rw [valueOf, found]

theorem valueOf_of_none {idle : List String} {name : String} {mode : ReadMode}
    (found : vs.find? name = none) :
    valueOf answer vs idle name mode =
      if mode = .strict then .error (.defect (.unset name)) else .ok .undefined := by
  rw [valueOf, found]

theorem valueOf_of_idle {idle : List String} {name : String} {mode : ReadMode} {c : Call}
    (found : vs.find? name = some (.pending c)) (isIdle : name ∈ idle) :
    valueOf answer vs idle name mode = (c.script answer).eval fun other mode =>
      valueOf answer vs (idle.erase name) (mode.target other) mode := by
  rw [valueOf, found]
  simp only [dif_pos isIdle]

theorem valueOf_of_not_idle {idle : List String} {name : String} {mode : ReadMode} {c : Call}
    (found : vs.find? name = some (.pending c)) (notIdle : name ∉ idle) :
    valueOf answer vs idle name mode = .error (.defect (.circular name)) := by
  rw [valueOf, found]
  simp only [dif_neg notIdle]

/-- How a variable is read matters only if there is none. -/
theorem valueOf_mode {idle : List String} {name : String} {e : Entry}
    (found : vs.find? name = some e) (mode other : ReadMode) :
    valueOf answer vs idle name mode = valueOf answer vs idle name other := by
  cases e with
  | value v => rw [valueOf_of_value found, valueOf_of_value found]
  | pending c =>
      by_cases isIdle : name ∈ idle
      · rw [valueOf_of_idle found isIdle, valueOf_of_idle found isIdle]
      · rw [valueOf_of_not_idle found isIdle, valueOf_of_not_idle found isIdle]

/-- A variable that has a value has it also with other idle variables, if the variables that
it reads do. -/
theorem valueOf_of_step {idle others : List String} {name : String} {mode : ReadMode} {v : Value}
    (value : valueOf answer vs idle name mode = .ok v) (still : name ∈ idle → name ∈ others)
    (reads : name ∈ idle → ∀ other (mode : ReadMode) w,
      valueOf answer vs (idle.erase name) (mode.target other) mode = .ok w →
        valueOf answer vs (others.erase name) (mode.target other) mode = .ok w) :
    valueOf answer vs others name mode = .ok v := by
  cases found : vs.find? name with
  | none =>
      rw [valueOf_of_none found] at value ⊢
      exact value
  | some e =>
      cases e with
      | value w =>
          rw [valueOf_of_value found] at value ⊢
          exact value
      | pending c =>
          by_cases isIdle : name ∈ idle
          · rw [valueOf_of_idle found isIdle] at value
            rw [valueOf_of_idle found (still isIdle)]
            exact (c.script_strict answer).eval_of_le (reads isIdle) value
          · rw [valueOf_of_not_idle found isIdle] at value
            contradiction

/-- A variable that has a value keeps it when fewer variables are being computed. -/
theorem valueOf_of_subset {idle more : List String} {name : String} {mode : ReadMode} {v : Value}
    (distinct : idle.Nodup) (fewer : idle ⊆ more)
    (value : valueOf answer vs idle name mode = .ok v) :
    valueOf answer vs more name mode = .ok v := by
  induction idle, name, mode using readKept.induct generalizing more v with
  | case1 idle name mode ih =>
      refine valueOf_of_step value (fun isIdle => fewer isIdle) ?_
      intro isIdle other mode w read
      refine ih isIdle other mode (distinct.erase name) ?_ read
      intro another mem
      obtain ⟨different, wasIdle⟩ := distinct.mem_erase_iff.mp mem
      exact (List.mem_erase_of_ne different).mpr (fewer wasIdle)

/-- A variable has a value when none is being computed. -/
def Settled (answer : Request → Except Fault Value) (vs : Variables) (name : String) : Prop :=
  ∃ v, ∀ mode, valueOf answer vs vs.pendingNames name mode = .ok v

theorem settled_of_value {idle : List String} {name : String} {mode : ReadMode} {v : Value}
    (distinct : idle.Nodup) (pending : idle ⊆ vs.pendingNames) (isIdle : name ∈ idle)
    (value : valueOf answer vs idle name mode = .ok v) : Settled answer vs name := by
  obtain ⟨c, found⟩ := mem_pendingNames.mp (pending isIdle)
  have settled := valueOf_of_subset distinct pending value
  exact ⟨v, fun other => (valueOf_mode found other mode).trans settled⟩

/-- A variable keeps its value as long as no variable that has one is being computed. -/
theorem valueOf_of_settled {idle others : List String} {name : String} {mode : ReadMode}
    {v : Value} (distinct : idle.Nodup) (pending : idle ⊆ vs.pendingNames)
    (kept : ∀ other ∈ idle, Settled answer vs other → other ∈ others)
    (value : valueOf answer vs idle name mode = .ok v) :
    valueOf answer vs others name mode = .ok v := by
  induction idle, name, mode using readKept.induct generalizing others v with
  | case1 idle name mode ih =>
      refine valueOf_of_step value ?_ ?_
      · intro isIdle
        exact kept name isIdle (settled_of_value distinct pending isIdle value)
      · intro isIdle other mode w read
        refine ih isIdle other mode (distinct.erase name)
          (fun another mem => pending (List.mem_of_mem_erase mem)) ?_ read
        intro another mem settled
        obtain ⟨different, wasIdle⟩ := distinct.mem_erase_iff.mp mem
        exact (List.mem_erase_of_ne different).mpr (kept another wasIdle settled)

end EditGuard.Variable
