import EditGuard.Proofs.Dictionary
import EditGuard.Proofs.Stateful
import EditGuard.Variable.Lookup

/-!
# How variables are read

A read finds a value, finds nothing, or computes a pending variable by a script
and keeps what the script gives.  This file gives the equations of these cases, and
shows that a limit is exceeded in a read only where the host says so.
-/

namespace EditGuard.Variable

/-! ## The cases of a read -/

theorem mem_pendingNames {vs : Variables} {name : String} :
    name ∈ vs.pendingNames ↔ ∃ c, vs.find? name = some (.pending c) := by
  rw [Variables.pendingNames, List.mem_map]
  constructor
  · rintro ⟨⟨key, entry⟩, mem, rfl⟩
    obtain ⟨inside, isPending⟩ := List.mem_filter.mp mem
    cases entry with
    | value v => contradiction
    | pending c => exact ⟨c, Dictionary.mem_entries_iff.mp inside⟩
  · rintro ⟨c, found⟩
    exact ⟨(name, .pending c),
      List.mem_filter.mpr ⟨Dictionary.mem_entries_iff.mpr found, rfl⟩, rfl⟩

theorem nodup_pendingNames (vs : Variables) : vs.pendingNames.Nodup :=
  (vs.nodup_keys).sublist (List.filter_sublist.map Prod.fst)

theorem ordered_pendingNames (vs : Variables) :
    vs.pendingNames.Pairwise fun a b => compare a b = .lt := by
  rw [Variables.pendingNames, List.pairwise_map]
  exact vs.ordered.filter _

/-- The script that computes a call, and the memory once the host was asked for it. -/
def scriptFor (host : Host) (c : Call) (m : Memory) : Script × Memory :=
  match c.method with
  | .intrinsic i => (i.script c.params, m)
  | .host method =>
      (host m.requests ⟨method, c.params⟩,
        { m with requests := m.requests ++ [⟨method, c.params⟩] })

theorem scriptFor_vars (host : Host) (c : Call) (m : Memory) :
    (scriptFor host c m).2.vars = m.vars := by
  unfold scriptFor
  split <;> rfl

theorem run_scriptOf (host : Host) (c : Call) (m : Memory) :
    (scriptOf host c).run.run m = (.ok (scriptFor host c m).1, (scriptFor host c m).2) := by
  rcases c with ⟨method, params⟩
  cases method <;> rfl

/-- Compute a pending variable and keep its value, given how variables are read. -/
def compute (host : Host) (read : String → ReadMode → Reading Value) (name : String)
    (c : Call) : Reading Value := do
  let script ← scriptOf host c
  let v ← script.run read
  keep name v
  return v

theorem run_compute (host : Host) (read : String → ReadMode → Reading Value) (name : String)
    (c : Call) (m : Memory) :
    (compute host read name c).run.run m =
      match ((scriptFor host c m).1.run read).run.run (scriptFor host c m).2 with
      | (.ok v, t) => (.ok v, { t with vars := t.vars.insert name (.value v) })
      | (.error f, t) => (.error f, t) := by
  rw [compute, run_bind_of_ok (run_scriptOf host c m), run_bind]
  rcases ((scriptFor host c m).1.run read).run.run (scriptFor host c m).2 with ⟨outcome, t⟩
  cases outcome <;> rfl

theorem compute_outcome (host : Host) (read : String → ReadMode → Reading Value)
    (name : String) (c : Call) (m : Memory) :
    ((compute host read name c).run.run m).1 =
      (((scriptFor host c m).1.run read).run.run (scriptFor host c m).2).1 := by
  rw [run_compute]
  rcases ((scriptFor host c m).1.run read).run.run (scriptFor host c m).2 with ⟨outcome, t⟩
  cases outcome <;> rfl

/-- The cases of a read. -/
theorem run_readKept (host : Host) (idle : List String) (name : String) (mode : ReadMode)
    (m : Memory) :
    (readKept host idle name mode).run.run m =
      match m.vars.find? name with
      | some (.value v) => (.ok v, m)
      | none => (if mode = .strict then .error (.defect (.unset name)) else .ok .undefined, m)
      | some (.pending c) =>
          if name ∈ idle then
            (compute host
              (fun other mode => readKept host (idle.erase name) (mode.target other) mode)
              name c).run.run m
          else (.error (.defect (.circular name)), m) := by
  rw [readKept, run_get_bind]
  cases m.vars.find? name with
  | none =>
      by_cases strict : mode = .strict
      · simp only [if_pos strict]
        rfl
      · simp only [if_neg strict]
        rfl
  | some entry =>
      cases entry with
      | value v => rfl
      | pending c =>
          by_cases isIdle : name ∈ idle
          · simp only [dif_pos isIdle, if_pos isIdle]
            rfl
          · simp only [dif_neg isIdle, if_neg isIdle]
            rfl

theorem run_script_read (read : String → ReadMode → Reading Value) (name : String)
    (mode : ReadMode) (next : Except Fault Value → Script) (m : Memory) :
    ((Script.read name mode next).run read).run.run m =
      ((next ((read name mode).run.run m).1).run read).run.run ((read name mode).run.run m).2 := by
  rw [Script.run, run_bind]
  rfl

/-- What every read keeps is kept by a script. -/
theorem Script.run_keeps {read : String → ReadMode → Reading Value} {Good : Memory → Prop}
    (keeps : ∀ name mode m, Good m → Good ((read name mode).run.run m).2)
    (script : Script) {m : Memory} (good : Good m) : Good ((script.run read).run.run m).2 := by
  induction script generalizing m with
  | done v => exact good
  | fail f => exact good
  | read name mode next ih =>
      rw [run_script_read]
      exact ih _ (keeps name mode m good)

/-! ## Exceeded limits -/

/-- A script that exceeds no limit, unless one of its reads has. -/
def Script.NeverOverruns : Script → Prop
  | .done _ => True
  | .fail f => ∀ o, f ≠ .overrun o
  | .read _ _ next =>
      ∀ outcome, (∀ o, outcome ≠ .error (.overrun o)) → (next outcome).NeverOverruns

/-- A host whose answers exceed no limit. -/
def Host.NeverOverruns (host : Host) : Prop :=
  ∀ earlier request, (host earlier request).NeverOverruns

theorem readParam_neverOverruns (params : List Value) (i : Nat) {next : Value → Script}
    (rest : ∀ v, (next v).NeverOverruns) : (readParam params i next).NeverOverruns := by
  unfold readParam
  split
  · intro outcome notOverrun
    cases outcome with
    | ok v => exact rest v
    | error f =>
        intro o same
        exact notOverrun o (congrArg Except.error same)
  · intro o same
    contradiction
  · intro o same
    contradiction

theorem Intrinsic.script_neverOverruns (i : Intrinsic) (params : List Value) :
    (i.script params).NeverOverruns := by
  cases i <;> unfold Intrinsic.script
  case difference | subtraction | linksAdded | linksRemoved =>
    exact readParam_neverOverruns _ _ fun _ => readParam_neverOverruns _ _ fun _ => trivial
  case differenceSide | length | withoutTags | lines =>
    exact readParam_neverOverruns _ _ fun _ => trivial

theorem scriptFor_neverOverruns {host : Host} (never : host.NeverOverruns) (c : Call)
    (m : Memory) : (scriptFor host c m).1.NeverOverruns := by
  unfold scriptFor
  split
  · exact Intrinsic.script_neverOverruns _ _
  · exact never _ _

theorem Script.run_ne_overrun {read : String → ReadMode → Reading Value}
    (reads : ∀ name mode m o, ((read name mode).run.run m).1 ≠ .error (.overrun o))
    {script : Script} (never : script.NeverOverruns) (m : Memory) (o : Overrun) :
    ((script.run read).run.run m).1 ≠ .error (.overrun o) := by
  induction script generalizing m with
  | done v => simp [Script.run]
  | fail f =>
      intro same
      exact never o (Except.error.inj same)
  | read name mode next ih =>
      rw [run_script_read]
      exact ih _ (never _ fun o => reads name mode m o) _

theorem readKept_ne_overrun {host : Host} (never : host.NeverOverruns) (idle : List String)
    (name : String) (mode : ReadMode) (m : Memory) (o : Overrun) :
    ((readKept host idle name mode).run.run m).1 ≠ .error (.overrun o) := by
  induction idle, name, mode using readKept.induct generalizing m o with
  | case1 idle name mode ih =>
      rw [run_readKept]
      cases m.vars.find? name with
      | none =>
          by_cases strict : mode = .strict
          · simp [strict]
          · simp [strict]
      | some entry =>
          cases entry with
          | value v => simp
          | pending c =>
              by_cases isIdle : name ∈ idle
              · have scriptRun := Script.run_ne_overrun (ih isIdle)
                  (scriptFor_neverOverruns never c m) (scriptFor host c m).2 o
                simp only [if_pos isIdle, run_compute]
                split
                · simp
                · rename_i outcome
                  rw [outcome] at scriptRun
                  exact scriptRun
              · simp [isIdle]

theorem read_ne_overrun {host : Host} (never : host.NeverOverruns) (name : String)
    (mode : ReadMode) (m : Memory) (o : Overrun) :
    ((read host name mode).run.run m).1 ≠ .error (.overrun o) :=
  readKept_ne_overrun never _ _ _ m o

end EditGuard.Variable
