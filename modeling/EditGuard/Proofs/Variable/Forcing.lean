import EditGuard.Proofs.Ordering
import EditGuard.Proofs.Variable.Reading

/-!
# Which variables are computed

A read computes pending variables and changes nothing else.  It computes none but those that
it is about or that are read on the way, and by what methods others would be computed makes
no difference to it.
-/

namespace EditGuard.Variable

/-! ## What becomes of the variables -/

/-- From one state of the variables to another, pending variables have got values and nothing
else has changed. -/
def Settles (before after : Variables) : Prop :=
  ∀ name, after.find? name = before.find? name ∨
    ∃ c v, before.find? name = some (.pending c) ∧ after.find? name = some (.value v)

namespace Settles

variable {before middle after : Variables} {name : String} {c : Call} {v : Value}

theorem refl : Settles before before :=
  fun _ => .inl rfl

theorem value (settles : Settles before after) (found : before.find? name = some (.value v)) :
    after.find? name = some (.value v) := by
  rcases settles name with same | ⟨c, w, pending, -⟩
  · rw [same, found]
  · rw [found] at pending
    cases pending

theorem pending (settles : Settles before after) (found : after.find? name = some (.pending c)) :
    before.find? name = some (.pending c) := by
  rcases settles name with same | ⟨d, v, -, value⟩
  · rw [← same, found]
  · rw [found] at value
    cases value

theorem none (settles : Settles before after) (missing : before.find? name = .none) :
    after.find? name = .none := by
  rcases settles name with same | ⟨c, v, pending, -⟩
  · rw [same, missing]
  · rw [missing] at pending
    cases pending

theorem trans (first : Settles before middle) (second : Settles middle after) :
    Settles before after := by
  intro name
  rcases second name with same | ⟨c, v, pending, value⟩
  · rw [same]
    exact first name
  · exact .inr ⟨c, v, first.pending pending, value⟩

theorem insert (settles : Settles before after) (found : before.find? name = some (.pending c))
    (v : Value) : Settles before (after.insert name (.value v)) := by
  intro other
  rw [Dictionary.find?_insert]
  by_cases same : other = name
  · rw [if_pos same, same]
    exact .inr ⟨c, v, found, rfl⟩
  · rw [if_neg same]
    exact settles other

end Settles

/-- Computing a pending variable settles it and what its reads settle. -/
theorem compute_settles (host : Host) {read : String → ReadMode → Reading Value}
    {name : String} {c : Call} {m : Memory} (found : m.vars.find? name = some (.pending c))
    (settles : ∀ other mode n, Settles n.vars ((read other mode).run.run n).2.vars) :
    Settles m.vars ((compute host read name c).run.run m).2.vars := by
  have start : Settles m.vars (scriptFor host c m).2.vars := by
    rw [scriptFor_vars]
    exact .refl
  have keeps : ∀ other mode n, Settles m.vars n.vars →
      Settles m.vars ((read other mode).run.run n).2.vars :=
    fun other mode n earlier => earlier.trans (settles other mode n)
  have ended := Script.run_keeps keeps (scriptFor host c m).1 start
  rw [run_compute]
  rcases ran : ((scriptFor host c m).1.run read).run.run (scriptFor host c m).2 with ⟨outcome, t⟩
  rw [ran] at ended
  cases outcome with
  | ok v => exact ended.insert found v
  | error f => exact ended

theorem readKept_settles (host : Host) (idle : List String) (name : String) (mode : ReadMode)
    (m : Memory) : Settles m.vars ((readKept host idle name mode).run.run m).2.vars := by
  induction idle, name, mode using readKept.induct generalizing m with
  | case1 idle name mode ih =>
      rw [run_readKept]
      cases found : m.vars.find? name with
      | none => exact .refl
      | some entry =>
          cases entry with
          | value v => exact .refl
          | pending c =>
              by_cases isIdle : name ∈ idle
              · simp only [if_pos isIdle]
                exact compute_settles host found fun other mode n => ih isIdle other mode n
              · simp only [if_neg isIdle]
                exact .refl

/-- A variable that was pending and has been read has a value. -/
theorem find?_of_run_readKept {host : Host} {idle : List String} {name : String}
    {mode : ReadMode} {m t : Memory} {c : Call} {v : Value}
    (found : m.vars.find? name = some (.pending c))
    (ran : (readKept host idle name mode).run.run m = (.ok v, t)) :
    t.vars.find? name = some (.value v) := by
  rw [run_readKept, found] at ran
  by_cases isIdle : name ∈ idle
  · simp only [if_pos isIdle, run_compute] at ran
    split at ran
    · cases ran
      rw [Dictionary.find?_insert, if_pos rfl]
    · cases ran
  · simp only [if_neg isIdle] at ran
    cases ran

theorem read_settles (host : Host) (name : String) (mode : ReadMode) (m : Memory) :
    Settles m.vars ((read host name mode).run.run m).2.vars :=
  readKept_settles host _ _ mode m

theorem entry?_of_run_read {host : Host} {name : String} {m t : Memory} {c : Call} {v : Value}
    (found : m.vars.entry? name = some (.pending c))
    (ran : (read host name .lax).run.run m = (.ok v, t)) :
    t.vars.entry? name = some (.value v) :=
  find?_of_run_readKept found ran

/-! ## What a computation may read -/

/-- A script may come to read the variable that is kept under a name. -/
inductive Script.MayRead (name : String) : Script → Prop
  | now {other : String} {mode : ReadMode} {next : Except Fault Value → Script}
      (target : mode.target other = name) : MayRead name (.read other mode next)
  | later {other : String} {mode : ReadMode} {next : Except Fault Value → Script}
      (outcome : Except Fault Value) (rest : MayRead name (next outcome)) :
      MayRead name (.read other mode next)

/-- The variables that are needed to compute listed ones: those of the list that are pending,
and what may be read to compute a needed one that is pending. -/
inductive Needed (host : Host) (vs : Variables) (listed : List String) : String → Prop
  | listed {name : String} {c : Call} (mem : name ∈ listed)
      (pending : vs.entry? name = some (.pending c)) : Needed host vs listed (fold name)
  | read {name other : String} {c : Call} (asked : Memory) (needed : Needed host vs listed name)
      (pending : vs.find? name = some (.pending c))
      (mayRead : (scriptFor host c asked).1.MayRead other) : Needed host vs listed other

/-! ## Memories that differ in one computation -/

/-- Two memories that have come from the variables `vs` and differ only in how one variable is
computed, which is pending in both. -/
structure Twins (vs : Variables) (name : String) (c d : Call) (m n : Memory) : Prop where
  left : m.vars.find? name = some (.pending c)
  right : n.vars.find? name = some (.pending d)
  others : ∀ other ≠ name, m.vars.find? other = n.vars.find? other
  requests : m.requests = n.requests
  settled : Settles vs m.vars

/-- A computation that cannot tell such memories apart, and leaves the variable pending. -/
def Blind (vs : Variables) (name : String) (c d : Call) {α : Type} (x : Reading α) : Prop :=
  ∀ m n, Twins vs name c d m n →
    (x.run.run m).1 = (x.run.run n).1 ∧ Twins vs name c d (x.run.run m).2 (x.run.run n).2

section Blindness

variable {host : Host} {vs : Variables} {listed : List String} {name : String} {c d : Call}
  {m n : Memory}

theorem Blind.bind {α β : Type} {x : Reading α} {f : α → Reading β} (first : Blind vs name c d x)
    (rest : ∀ {a m t}, x.run.run m = (.ok a, t) → Blind vs name c d (f a)) :
    Blind vs name c d (x >>= f) := by
  intro m n twins
  obtain ⟨same, after⟩ := first m n twins
  rw [run_bind, run_bind]
  rcases left : x.run.run m with ⟨outcome, t⟩
  rcases right : x.run.run n with ⟨_, u⟩
  rw [left, right] at same after
  cases same
  cases outcome with
  | ok a => exact rest left t u after
  | error f => exact ⟨rfl, after⟩

theorem blind_scriptOf (host : Host) (called : Call) :
    Blind vs name c d (scriptOf host called) := by
  intro m n twins
  rw [run_scriptOf, run_scriptOf]
  rcases called with ⟨method, params⟩
  cases method with
  | intrinsic i => exact ⟨rfl, twins⟩
  | host method =>
      constructor
      · exact congrArg (fun earlier => Except.ok (host earlier (.mk method params))) twins.requests
      · exact ⟨twins.left, twins.right, twins.others,
          congrArg (· ++ [Request.mk method params]) twins.requests, twins.settled⟩

theorem blind_keep {other : String} {called : Call} (different : other ≠ name)
    (found : vs.find? other = some (.pending called)) (v : Value) :
    Blind vs name c d (keep other v) := by
  intro m n twins
  refine ⟨rfl, ?_⟩
  have kept : ∀ (ws : Variables) another, (ws.insert other (.value v)).find? another =
      if another = other then some (.value v) else ws.find? another :=
    fun ws another => Dictionary.find?_insert ws other another _
  constructor
  · exact (kept _ _).trans ((if_neg different.symm).trans twins.left)
  · exact (kept _ _).trans ((if_neg different.symm).trans twins.right)
  · intro another notName
    have same := twins.others another notName
    exact (kept _ _).trans (same ▸ (kept _ _).symm)
  · exact twins.requests
  · exact twins.settled.insert found v

/-- If reads cannot tell twins apart, then neither can a script that reads in this way. -/
theorem blind_run {read : String → ReadMode → Reading Value} {script : Script}
    (reads : ∀ other mode, script.MayRead (mode.target other) →
      Blind vs name c d (read other mode)) : Blind vs name c d (script.run read) := by
  induction script with
  | done v => exact fun m n twins => ⟨rfl, twins⟩
  | fail f => exact fun m n twins => ⟨rfl, twins⟩
  | read other mode next ih =>
      intro m n twins
      obtain ⟨same, after⟩ := reads other mode (.now rfl) m n twins
      rw [run_script_read, run_script_read, ← same]
      exact ih _ (fun other mode may => reads other mode (.later _ may)) _ _ after

/-- If reads cannot tell twins apart, then neither can the computation of another variable. -/
theorem blind_compute {read : String → ReadMode → Reading Value} {other : String}
    {called : Call} (different : other ≠ name) (found : vs.find? other = some (.pending called))
    (reads : ∀ asked another (mode : ReadMode),
      (scriptFor host called asked).1.MayRead (mode.target another) →
        Blind vs name c d (read another mode)) :
    Blind vs name c d (compute host read other called) := by
  refine (blind_scriptOf host called).bind fun asked => ?_
  rw [run_scriptOf] at asked
  cases asked
  refine (blind_run (reads _)).bind fun _ => ?_
  exact (blind_keep different found _).bind fun _ m n twins => ⟨rfl, twins⟩

/-- A read of a needed variable cannot tell how one that is not needed is computed. -/
theorem blind_readKept (notNeeded : ¬Needed host vs listed name) (idle : List String)
    {other : String} (mode : ReadMode) (needed : Needed host vs listed other) :
    Blind vs name c d (readKept host idle other mode) := by
  induction idle, other, mode using readKept.induct with
  | case1 idle other mode ih =>
      intro m n twins
      have different : other ≠ name := by
        rintro rfl
        exact notNeeded needed
      rw [run_readKept, run_readKept, ← twins.others other different]
      cases found : m.vars.find? other with
      | none => exact ⟨rfl, twins⟩
      | some entry =>
          cases entry with
          | value v => exact ⟨rfl, twins⟩
          | pending called =>
              have pending := twins.settled.pending found
              by_cases isIdle : other ∈ idle
              · simp only [if_pos isIdle]
                -- What the computation may read is needed, so no read on the way can tell either.
                apply blind_compute different pending _ m n twins
                intro asked another mode mayRead
                exact ih isIdle another mode (.read asked needed pending mayRead)
              · simp only [if_neg isIdle]
                exact ⟨trivial, twins⟩

/-- The same variables are pending in twins. -/
theorem Twins.pendingNames_eq (twins : Twins vs name c d m n) :
    m.vars.pendingNames = n.vars.pendingNames := by
  refine eq_of_pairwise_lt id (ordered_pendingNames _) (ordered_pendingNames _) ?_
  intro other
  rw [mem_pendingNames, mem_pendingNames]
  by_cases same : other = name
  · subst same
    rw [twins.left, twins.right]
    simp
  · rw [twins.others other same]

theorem blind_read (notNeeded : ¬Needed host vs listed name) {other : String}
    (needed : Needed host vs listed (fold other)) :
    Blind vs name c d (read host other .lax) := by
  intro m n twins
  rw [read, run_get_bind, run_get_bind, ← twins.pendingNames_eq]
  exact blind_readKept notNeeded _ .lax needed m n twins

end Blindness

end EditGuard.Variable
