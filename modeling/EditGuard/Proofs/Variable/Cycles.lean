import EditGuard.Proofs.Variable.Dependencies
import EditGuard.Proofs.Variable.Forcing

/-!
# Circular variables

Reading a variable fails if and only if a cycle of pending variables can be reached from
it, however its dependencies are shared and whatever was computed before.  Otherwise the
read gives the value that the methods define, and everything on its way is kept with its
own value.
-/

namespace EditGuard.Variable

/-! ## What is kept -/

/-- Nothing is left to be computed for a variable. -/
def Resolved (vs : Variables) (name : String) : Prop :=
  ∀ c, vs.find? name ≠ some (.pending c)

/-- From the variables `vs`, others have come by computing pending variables: these have
their own values, and all that they depend on is resolved. -/
structure Memoizes (vs ws : Variables) : Prop where
  settles : Settles vs ws
  means : ∀ {name c v}, vs.find? name = some (.pending c) →
    ws.find? name = some (.value v) → Means vs name v
  closed : ∀ {name other v}, DependsOn vs name other → ws.find? name = some (.value v) →
    Resolved ws other

section Keeping

variable {vs ws : Variables} {name other : String} {v : Value}

theorem Resolved.of_settles (resolved : Resolved vs name) (settles : Settles vs ws) :
    Resolved ws name :=
  fun c pending => resolved c (settles.pending pending)

theorem resolved_insert (vs : Variables) (name : String) (v : Value) :
    Resolved (vs.insert name (.value v)) name := by
  intro c pending
  rw [Dictionary.find?_insert, if_pos rfl] at pending
  cases pending

theorem Resolved.insert (resolved : Resolved vs other) (name : String) (v : Value) :
    Resolved (vs.insert name (.value v)) other := by
  intro c pending
  rw [Dictionary.find?_insert] at pending
  split at pending
  · cases pending
  · exact resolved c pending

/-- Nothing is computed at first. -/
theorem Memoizes.refl : Memoizes vs vs where
  settles := .refl
  means pending found := by
    rw [pending] at found
    cases found
  closed depends found := by
    obtain ⟨c, pending, -⟩ := depends
    rw [pending] at found
    cases found

/-- A pending variable is given its value, once all that it depends on is resolved. -/
theorem Memoizes.insert (memoizes : Memoizes vs ws) {c : Call}
    (pending : vs.find? name = some (.pending c)) (means : Means vs name v)
    (closed : ∀ other, DependsOn vs name other → Resolved ws other) :
    Memoizes vs (ws.insert name (.value v)) := by
  have kept := Dictionary.find?_insert ws name (a := Entry.value v)
  refine ⟨memoizes.settles.insert pending v, ?_, ?_⟩
  · intro another d w wasPending found
    rw [kept] at found
    split at found
    · rename_i same
      cases found
      exact same ▸ means
    · exact memoizes.means wasPending found
  · intro another other w depends found
    rw [kept] at found
    split at found
    · rename_i same
      exact (closed other (same ▸ depends)).insert name v
    · exact (memoizes.closed depends found).insert name v

/-- A pending variable that has become resolved has its own value. -/
theorem Memoizes.means_of_resolved (memoizes : Memoizes vs ws) (resolved : Resolved ws name)
    {c : Call} (pending : vs.find? name = some (.pending c)) :
    ∃ v, Means vs name v ∧ ws.find? name = some (.value v) := by
  rcases memoizes.settles name with same | ⟨d, v, -, value⟩
  · exact absurd (same.trans pending) (resolved c)
  · exact ⟨v, memoizes.means pending value, value⟩

/-- If a variable is resolved then so is all that is needed to compute it. -/
theorem Memoizes.resolved_of_reaches (memoizes : Memoizes vs ws) (resolved : Resolved ws name)
    (reaches : Reaches vs name other) : Resolved ws other := by
  induction reaches with
  | refl => exact resolved
  | tail _ depends ih =>
      obtain ⟨c, pending, reads⟩ := depends
      obtain ⟨v, -, value⟩ := memoizes.means_of_resolved ih pending
      exact memoizes.closed ⟨c, pending, reads⟩ value

end Keeping

/-! ## One computation -/

/-- A computation that started from `m` has ended.  It has asked no host and kept what it has
computed.  If it has succeeded then `Good` holds of its value and the variables; otherwise
a variable was circular, and `Bad` holds. -/
structure Ended (vs : Variables) (m : Memory) (Good : Value → Variables → Prop) (Bad : Prop)
    (ran : Except Fault Value × Memory) : Prop where
  settles : Settles m.vars ran.2.vars
  requests : ran.2.requests = m.requests
  memoizes : Memoizes vs ran.2.vars
  good : ∀ {v}, ran.1 = .ok v → Good v ran.2.vars
  bad : ∀ {f}, ran.1 = .error f → (∃ name, f = .defect (.circular name)) ∧ Bad

/-- A variable has been read as it should: it has its own value or reaches a cycle. -/
abbrev Exact (vs : Variables) (m : Memory) (name : String) :
    Except Fault Value × Memory → Prop :=
  Ended vs m (fun v ws => Means vs name v ∧ Resolved ws name) (Cyclic vs name)

section Computing

variable {vs : Variables} {m : Memory} {Good : Value → Variables → Prop} {Bad : Prop}
  {read : String → ReadMode → Reading Value} {c : Call}

theorem ended_of_ok {v : Value} (memoizes : Memoizes vs m.vars) (good : Good v m.vars) :
    Ended vs m Good Bad (.ok v, m) where
  settles := .refl
  requests := rfl
  memoizes := memoizes
  good same := by
    cases same
    exact good
  bad same := by cases same

/-- A computation that reads a variable first goes on with its value. -/
theorem ended_readParam {k : Nat} {other : String} {next : Value → Script}
    (target : c.target? k = some other)
    (reads : ∀ name, fold name = other → Exact vs m other ((read name .lax).run.run m))
    (rest : ∀ v t, Settles m.vars t.vars → Memoizes vs t.vars → Means vs other v →
      Resolved t.vars other → Ended vs t Good Bad (((next v).run read).run.run t))
    (bad : Cyclic vs other → Bad) :
    Ended vs m Good Bad (((readParam c.params k next).run read).run.run m) := by
  unfold Call.target? at target
  split at target
  · rename_i name param
    have first := reads name (Option.some.inj target)
    unfold readParam
    rw [param]
    dsimp only
    rw [run_script_read]
    rcases ran : (read name .lax).run.run m with ⟨outcome, t⟩
    rw [ran] at first
    cases outcome with
    | ok v =>
        obtain ⟨means, resolved⟩ := first.good rfl
        have ended := rest v t first.settles first.memoizes means resolved
        exact ⟨first.settles.trans ended.settles, ended.requests.trans first.requests,
          ended.memoizes, ended.good, ended.bad⟩
    | error f =>
        obtain ⟨circular, cyclic⟩ := first.bad rfl
        refine ⟨first.settles, first.requests, first.memoizes, ?_, ?_⟩
        · intro v same
          cases same
        · intro g same
          cases same
          exact ⟨circular, bad cyclic⟩
  · contradiction

/-- A call computes its method from the values of the variables that it names. -/
theorem ended_script {i : Intrinsic} (method : c.method = .intrinsic i)
    (names : ∀ k < i.arity, ∃ name, c.target? k = some name) (memoizes : Memoizes vs m.vars)
    (reads : ∀ name n, c.Reads (fold name) → Settles m.vars n.vars → Memoizes vs n.vars →
      Exact vs n (fold name) ((read name .lax).run.run n)) :
    Ended vs m
      (fun v ws => ∃ (target : Nat → String) (operand : Nat → Value),
        v = i.result c.params operand ∧ ∀ k < i.arity, c.target? k = some (target k) ∧
          Means vs (target k) (operand k) ∧ Resolved ws (target k))
      (∃ other, c.Reads other ∧ Cyclic vs other)
      (((i.script c.params).run read).run.run m) := by
  -- The read of a parameter from any memory on the way.
  have readAt : ∀ {k other n}, k < i.arity → c.target? k = some other → Settles m.vars n.vars →
      Memoizes vs n.vars → ∀ name, fold name = other →
        Exact vs n other ((read name .lax).run.run n) := by
    intro k other n below target settles memoizes name same
    subst same
    exact reads name n ⟨i, k, method, below, target⟩ settles memoizes
  have badAt : ∀ {k other}, k < i.arity → c.target? k = some other → Cyclic vs other →
      ∃ other, c.Reads other ∧ Cyclic vs other :=
    fun {k other} below target cyclic => ⟨other, ⟨i, k, method, below, target⟩, cyclic⟩
  rcases i.arity_eq with one | two
  · have below : 0 < i.arity := by omega
    obtain ⟨first, target⟩ := names 0 below
    rw [Intrinsic.script_of_arity_one one]
    refine ended_readParam target (readAt below target .refl memoizes) ?_ (badAt below target)
    intro v t _ memoizes means resolved
    refine ended_of_ok memoizes ⟨fun _ => first, fun _ => v, rfl, fun k inside => ?_⟩
    obtain rfl : k = 0 := by omega
    exact ⟨target, means, resolved⟩
  · have below : 0 < i.arity := by omega
    have belowNext : 1 < i.arity := by omega
    obtain ⟨first, target⟩ := names 0 below
    obtain ⟨second, targetNext⟩ := names 1 belowNext
    rw [Intrinsic.script_of_arity_two two]
    refine ended_readParam target (readAt below target .refl memoizes) ?_ (badAt below target)
    intro v t settles memoizes means resolved
    refine ended_readParam targetNext (readAt belowNext targetNext settles memoizes) ?_
      (badAt belowNext targetNext)
    intro w u settlesNext memoizes meansNext resolvedNext
    refine ended_of_ok memoizes ⟨fun k => if k = 0 then first else second,
      fun k => if k = 0 then v else w, rfl, fun k inside => ?_⟩
    obtain rfl | rfl : k = 0 ∨ k = 1 := by omega
    · exact ⟨target, means, resolved.of_settles settlesNext⟩
    · exact ⟨targetNext, meansNext, resolvedNext⟩

/-- Computing a pending variable gives its own value, if reading what it depends on does. -/
theorem exact_compute (host : Host) {name : String}
    (wasPending : vs.find? name = some (.pending c))
    (pending : m.vars.find? name = some (.pending c)) (names : c.namesVariables)
    (memoizes : Memoizes vs m.vars)
    (reads : ∀ other n, DependsOn vs name (fold other) → Settles m.vars n.vars →
      Memoizes vs n.vars → Exact vs n (fold other) ((read other .lax).run.run n)) :
    Exact vs m name ((compute host read name c).run.run m) := by
  obtain ⟨i, method, targets⟩ := Call.exists_of_namesVariables names
  have same : scriptFor host c m = (i.script c.params, m) := by
    unfold scriptFor
    rw [method]
  have ended := ended_script method targets memoizes fun other n about settles memoizes =>
    reads other n ⟨c, wasPending, about⟩ settles memoizes
  rw [run_compute, same]
  rcases ran : ((i.script c.params).run read).run.run m with ⟨outcome, t⟩
  rw [ran] at ended
  cases outcome with
  | ok v =>
      obtain ⟨target, operand, rfl, operands⟩ := ended.good rfl
      have means : Means vs name (i.result c.params operand) :=
        .computed wasPending method (fun k below => (operands k below).1)
          fun k below => (operands k below).2.1
      have closed : ∀ other, DependsOn vs name other → Resolved t.vars other := by
        rintro other ⟨d, found, j, k, methodFound, below, targetFound⟩
        rw [wasPending] at found
        cases found
        rw [method] at methodFound
        cases methodFound
        rw [(operands k below).1] at targetFound
        cases targetFound
        exact (operands k below).2.2
      refine ⟨ended.settles.insert pending _, ended.requests,
        ended.memoizes.insert wasPending means closed, ?_, ?_⟩
      · intro w same
        cases same
        exact ⟨means, resolved_insert t.vars name _⟩
      · intro f same
        cases same
  | error f =>
      obtain ⟨circular, other, about, cyclic⟩ := ended.bad rfl
      refine ⟨ended.settles, ended.requests, ended.memoizes, ?_, ?_⟩
      · intro v same
        cases same
      · intro g same
        cases same
        exact ⟨circular, cyclic.of_dependsOn ⟨c, wasPending, about⟩⟩

end Computing

/-! ## Reads -/

/-- The variables that are being computed lead to the one that is read. -/
def LeadTo (vs ws : Variables) (idle : List String) (name : String) : Prop :=
  ∀ busy c, ws.find? busy = some (.pending c) → busy ∉ idle →
    Relation.TransGen (DependsOn vs) busy name

theorem LeadTo.step {vs ws after : Variables} {idle : List String} {name other : String}
    (leads : LeadTo vs ws idle name) (depends : DependsOn vs name other)
    (settles : Settles ws after) : LeadTo vs after (idle.erase name) other := by
  intro busy c pending notIdle
  by_cases same : busy = name
  · exact same ▸ .single depends
  · have wasBusy : busy ∉ idle := fun mem => notIdle ((List.mem_erase_of_ne same).mpr mem)
    exact (leads busy c (settles.pending pending) wasBusy).tail depends

/-- A read gives a variable its own value or finds a cycle, while those that are being
computed lead to it. -/
theorem exact_readKept (host : Host) {vs : Variables}
    (named : ∀ {name c}, vs.find? name = some (.pending c) → c.namesVariables)
    (idle : List String) (name : String) {mode : ReadMode} (notStrict : mode ≠ .strict)
    {m : Memory} (memoizes : Memoizes vs m.vars) (leads : LeadTo vs m.vars idle name) :
    Exact vs m name ((readKept host idle name mode).run.run m) := by
  induction idle, name, mode using readKept.induct generalizing m with
  | case1 idle name mode ih =>
      rw [run_readKept]
      cases found : m.vars.find? name with
      | none =>
          have missing : vs.find? name = none := by
            rcases memoizes.settles name with same | ⟨c, v, -, value⟩
            · rw [← same, found]
            · rw [found] at value
              cases value
          simp only [if_neg notStrict]
          refine ended_of_ok memoizes ⟨.missing missing, fun c pending => ?_⟩
          rw [found] at pending
          cases pending
      | some entry =>
          cases entry with
          | value v =>
              have resolved : Resolved m.vars name := by
                intro c pending
                rw [found] at pending
                cases pending
              have means : Means vs name v := by
                rcases memoizes.settles name with same | ⟨c, w, pending, -⟩
                · exact .value (same ▸ found)
                · exact memoizes.means pending found
              exact ended_of_ok memoizes ⟨means, resolved⟩
          | pending c =>
              have wasPending := memoizes.settles.pending found
              by_cases isIdle : name ∈ idle
              · simp only [if_pos isIdle]
                refine exact_compute host wasPending found (named wasPending) memoizes ?_
                intro other n depends settles memoizes
                exact ih isIdle other .lax (by decide) memoizes (leads.step depends settles)
              · simp only [if_neg isIdle]
                -- The variable is being computed itself, so it leads to itself.
                refine ⟨.refl, rfl, memoizes, fun same => ?_, fun same => ?_⟩
                · cases same
                · cases same
                  exact ⟨⟨name, rfl⟩, name, .refl, leads name c found isIdle⟩

/-- While nothing is being computed, a variable is read as it should. -/
theorem exact_read (host : Host) {m : Memory}
    (named : ∀ entry ∈ m.vars.items, entry.namesVariables) (name : String) :
    Exact m.vars m (fold name) ((read host name .lax).run.run m) := by
  refine exact_readKept host ?_ _ _ (by decide) .refl ?_
  · intro other c pending
    have mem : (other, Entry.pending c) ∈ m.vars.entries := Dictionary.mem_entries_iff.mpr pending
    exact named _ (List.mem_map.mpr ⟨_, mem, rfl⟩)
  · intro busy c pending notIdle
    exact absurd (mem_pendingNames.mpr ⟨c, pending⟩) notIdle

/-- Reading a variable fails if and only if it reaches a cycle of pending variables, and the
failure tells of a circular variable.  Otherwise the read gives the value that the methods
define, and all pending variables that were needed have their own values afterwards. -/
theorem read_circular_iff (host : Host) (m : Memory)
    (named : ∀ entry ∈ m.vars.items, entry.namesVariables) (name : String) :
    let ran := (read host name .lax).run.run m
    (Cyclic m.vars (fold name) ↔ ∃ circular, ran.1 = .error (.defect (.circular circular))) ∧
      (¬Cyclic m.vars (fold name) →
        (∃ v, ran.1 = .ok v ∧ ∀ w, Means m.vars (fold name) w ↔ w = v) ∧
        ∀ other c, Reaches m.vars (fold name) other →
          m.vars.find? other = some (.pending c) →
            ∃ v, ran.2.vars.find? other = some (.value v) ∧
              ∀ w, Means m.vars other w ↔ w = v) := by
  intro ran
  have exact : Exact m.vars m (fold name) ran := exact_read host named name
  have unique : ∀ {other v}, Means m.vars other v → ∀ w, Means m.vars other w ↔ w = v :=
    fun means w => ⟨fun meansOther => meansOther.unique means, fun same => same ▸ means⟩
  cases outcome : ran.1 with
  | ok v =>
      obtain ⟨means, resolved⟩ := exact.good outcome
      refine ⟨iff_of_false means.not_cyclic ?_, fun _ => ⟨⟨v, rfl, unique means⟩, ?_⟩⟩
      · rintro ⟨circular, same⟩
        cases same
      · intro other c reaches pending
        have resolvedOther := exact.memoizes.resolved_of_reaches resolved reaches
        obtain ⟨w, meansOther, value⟩ := exact.memoizes.means_of_resolved resolvedOther pending
        exact ⟨w, value, unique meansOther⟩
  | error f =>
      obtain ⟨⟨circular, rfl⟩, cyclic⟩ := exact.bad outcome
      exact ⟨iff_of_true cyclic ⟨circular, rfl⟩, fun notCyclic => absurd cyclic notCyclic⟩

/-- Two variables that are each the length of the other one are circular. -/
theorem read_circular_of_mutual :
    let circle : Variables := ⟨[("new_size", .pending ⟨.intrinsic .length, [.text "Old_Size"]⟩),
      ("old_size", .pending ⟨.intrinsic .length, [.text "NEW_SIZE"]⟩)], by decide⟩
    (∀ entry ∈ circle.items, entry.namesVariables) ∧
      ∃ circular, ((read .none "New_size" .lax).run.run ⟨circle, []⟩).1 =
        .error (.defect (.circular circular)) := by
  intro circle
  have named : ∀ entry ∈ circle.items, entry.namesVariables := by decide +kernel
  have forth : DependsOn circle "new_size" "old_size" :=
    ⟨_, rfl, .length, 0, rfl, Nat.one_pos, by decide +kernel⟩
  have back : DependsOn circle "old_size" "new_size" :=
    ⟨_, rfl, .length, 0, rfl, Nat.one_pos, by decide +kernel⟩
  have kept : fold "New_size" = "new_size" := by decide +kernel
  refine ⟨named, (read_circular_iff .none ⟨circle, []⟩ named "New_size").1.mp ?_⟩
  rw [kept]
  exact ⟨"new_size", .refl, .tail (.single forth) back⟩

end EditGuard.Variable
