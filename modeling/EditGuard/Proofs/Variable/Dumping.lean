import EditGuard.Proofs.Value.RoundTrip
import EditGuard.Proofs.Variable.Forcing
import EditGuard.Proofs.Variable.Naming
import EditGuard.Settings
import EditGuard.Variable.Dump

/-!
# Dumps that are read back

A dump computes the listed variables and writes all that have values.  What is read back are
these values under current names, where a protected one only tells whether it counts as true.
-/

namespace EditGuard.Variable

variable {host : Host} {vs : Variables} {listed : List String}

/-! ## Computing the listed variables -/

theorem run_computeAll_of_pending {name : String} {c : Call} {m : Memory}
    (pending : m.vars.entry? name = some (.pending c)) (names : List String) :
    (computeAll host (name :: names)).run.run m =
      (read host name .lax >>= fun _ => computeAll host names).run.run m := by
  rw [computeAll, run_get_bind, pending]
  exact congrArg (fun x : Reading Unit => x.run.run m)
    (discard_bind (read host name .lax) fun _ => computeAll host names)

theorem run_computeAll_of_settled {name : String} {m : Memory}
    (settled : ∀ c, m.vars.entry? name ≠ some (.pending c)) (names : List String) :
    (computeAll host (name :: names)).run.run m = (computeAll host names).run.run m := by
  have notPending : ((m.vars.entry? name).map Entry.isPending).getD false = false := by
    cases found : m.vars.entry? name with
    | none => rfl
    | some entry =>
        cases entry with
        | value v => rfl
        | pending c => exact absurd found (settled c)
  rw [computeAll, run_get_bind, notPending]
  rfl

theorem computeAll_settles (host : Host) (names : List String) (m : Memory) :
    Settles m.vars ((computeAll host names).run.run m).2.vars := by
  induction names generalizing m with
  | nil => exact .refl
  | cons name names ih =>
      by_cases pending : ∃ c, m.vars.entry? name = some (.pending c)
      · obtain ⟨c, found⟩ := pending
        have first := read_settles host name .lax m
        rw [run_computeAll_of_pending found, run_bind]
        rcases ran : (read host name .lax).run.run m with ⟨outcome, t⟩
        rw [ran] at first
        cases outcome with
        | ok v => exact first.trans (ih t)
        | error f => exact first
      · rw [run_computeAll_of_settled (not_exists.mp pending)]
        exact ih m

theorem Settles.folded {before after : Variables} (settles : Settles before after)
    (folded : before.Folded) : after.Folded := by
  intro name entry found
  rcases settles name with same | ⟨c, v, pending, -⟩
  · exact folded (same ▸ found)
  · exact folded pending

/-- If all goes well, every listed variable that was pending gets a value. -/
theorem computeAll_computes {names : List String} {m t : Memory}
    (ran : (computeAll host names).run.run m = (.ok (), t)) {name : String} (mem : name ∈ names)
    {c : Call} (found : m.vars.entry? name = some (.pending c)) :
    ∃ v, t.vars.entry? name = some (.value v) := by
  induction names generalizing m with
  | nil => cases mem
  | cons first names ih =>
      by_cases pending : ∃ c, m.vars.entry? first = some (.pending c)
      · obtain ⟨d, foundFirst⟩ := pending
        rw [run_computeAll_of_pending foundFirst] at ran
        obtain ⟨v, u, reading, rest⟩ := exists_of_run_bind_eq_ok ran
        have value := entry?_of_run_read foundFirst reading
        have later := computeAll_settles host names u
        rw [rest] at later
        rcases List.mem_cons.mp mem with rfl | mem
        · exact ⟨v, later.value value⟩
        · have settles := read_settles host first .lax m
          rw [reading] at settles
          -- The read of the first one may have computed this one on its way.
          rcases settles (fold name) with same | ⟨_, w, -, known⟩
          · exact ih rest mem (same.trans found)
          · exact ⟨w, later.value known⟩
      · rw [run_computeAll_of_settled (not_exists.mp pending)] at ran
        rcases List.mem_cons.mp mem with rfl | mem
        · exact absurd ⟨c, found⟩ pending
        · exact ih ran mem found

/-- Computing listed variables cannot tell how one that is not needed is computed. -/
theorem blind_computeAll {name : String} {c d : Call} (notNeeded : ¬Needed host vs listed name)
    {names : List String} (among : names ⊆ listed) :
    Blind vs name c d (computeAll host names) := by
  induction names with
  | nil => exact fun m n twins => ⟨rfl, twins⟩
  | cons first names ih =>
      intro m n twins
      obtain ⟨isListed, rest⟩ := List.cons_subset.mp among
      by_cases pending : ∃ e, m.vars.entry? first = some (.pending e)
      · obtain ⟨e, found⟩ := pending
        have needed : Needed host vs listed (fold first) :=
          .listed isListed (twins.settled.pending found)
        have different : fold first ≠ name := fun same => notNeeded (same ▸ needed)
        have foundToo : n.vars.entry? first = some (.pending e) := by
          rw [Variables.entry?, ← twins.others _ different]
          exact found
        rw [run_computeAll_of_pending found, run_computeAll_of_pending foundToo]
        exact (blind_read notNeeded needed).bind (fun _ => ih rest) m n twins
      · have different : fold first ≠ name := by
          rintro rfl
          exact pending ⟨c, twins.left⟩
        have settled : ∀ e, n.vars.entry? first ≠ some (.pending e) := by
          rw [Variables.entry?, ← twins.others _ different]
          exact not_exists.mp pending
        rw [run_computeAll_of_settled (not_exists.mp pending), run_computeAll_of_settled settled]
        exact ih rest m n twins

/-! ## Reading a dump -/

/-- What a dump tells of a value, once it has been read: of a protected variable whether it
counts as true, and else the value with null for what is undefined in it. -/
def told (isProtected : String → Bool) (name : String) (v : Value) : Value :=
  if isProtected name then .bool v.toBool else v.withoutUndefined

theorem plain_dumped {isProtected : String → Bool} {name : String} {v : Value} {depth : Nat}
    (plain : v.Plain depth) : (dumped isProtected name v).Plain depth := by
  unfold dumped
  split
  · exact .bool _
  · exact plain

theorem ofJson_dumped {isProtected : String → Bool} {name : String} {v : Value} {depth : Nat}
    (plain : v.Plain depth) :
    Value.ofJson (dumped isProtected name v).toJson = told isProtected name v := by
  rw [(plain_dumped plain).ofJson_toJson, dumped, told]
  split
  · rfl
  · rfl

theorem mem_values_iff {name : String} {v : Value} :
    (name, v) ∈ vs.values ↔ vs.find? name = some (.value v) := by
  rw [Variables.values, List.mem_filterMap, ← Dictionary.mem_entries_iff]
  constructor
  · rintro ⟨⟨other, entry⟩, mem, same⟩
    cases entry with
    | value w =>
        cases same
        exact mem
    | pending c => cases same
  · intro mem
    exact ⟨(name, .value v), mem, rfl⟩

theorem ordered_values (vs : Variables) :
    vs.values.Pairwise fun a b => compare a.1 b.1 = .lt := by
  rw [Variables.values, List.pairwise_filterMap]
  refine vs.ordered.imp ?_
  rintro ⟨name, entry⟩ ⟨other, another⟩ less a first b second
  obtain ⟨v, -, rfl⟩ := Option.map_eq_some_iff.mp first
  obtain ⟨w, -, rfl⟩ := Option.map_eq_some_iff.mp second
  exact less

theorem entries_ofList_values {α : Type} (vs : Variables) (tell : String × Value → α) :
    (Dictionary.ofList (vs.values.map fun e => (e.1, tell e))).entries =
      vs.values.map fun e => (e.1, tell e) :=
  Dictionary.entries_ofList (List.pairwise_map.mpr (ordered_values vs))

/-- The variables that a dump tells of. -/
def toldOf (isProtected : String → Bool) (vs : Variables) : Variables :=
  .ofList (vs.values.map fun e => (e.1, .value (told isProtected e.1 e.2)))

theorem find?_toldOf {isProtected : String → Bool} {name : String} {entry : Entry} :
    (toldOf isProtected vs).find? name = some entry ↔
      ∃ v, vs.find? name = some (.value v) ∧ entry = .value (told isProtected name v) := by
  rw [← Dictionary.mem_entries_iff, toldOf, entries_ofList_values, List.mem_map]
  constructor
  · rintro ⟨⟨other, v⟩, mem, same⟩
    cases same
    exact ⟨v, mem_values_iff.mp mem, rfl⟩
  · rintro ⟨v, found, rfl⟩
    exact ⟨(name, v), mem_values_iff.mpr found, rfl⟩

theorem find?_toldOf_eq_none {isProtected : String → Bool} {name : String} :
    (toldOf isProtected vs).find? name = none ↔ ∀ v, vs.find? name ≠ some (.value v) := by
  rw [Option.eq_none_iff_forall_ne_some]
  constructor
  · intro missing v found
    exact missing _ (find?_toldOf.mpr ⟨v, found, rfl⟩)
  · intro missing entry found
    obtain ⟨v, value, -⟩ := find?_toldOf.mp found
    exact missing v value

theorem folded_toldOf {isProtected : String → Bool} (folded : vs.Folded) :
    (toldOf isProtected vs).Folded := by
  intro name entry found
  obtain ⟨v, value, -⟩ := find?_toldOf.mp found
  exact folded value

/-- What is read of a dump under a current name: what it tells of the variable of that name, or
else of the one with the old name. -/
theorem find?_renameAll_toldOf {isProtected : String → Bool} {name : String} {entry : Entry} :
    (toldOf isProtected vs).renameAll.find? name = some entry ↔
      ∃ old v, vs.find? old = some (.value v) ∧ entry = .value (told isProtected old v) ∧
        (replacement? old = none ∧ old = name ∨
          replacement? old = some name ∧ ∀ w, vs.find? name ≠ some (.value w)) := by
  rw [Variables.find?_renameAll_eq_some_iff, Variables.Becomes, find?_toldOf_eq_none]
  simp only [find?_toldOf]
  constructor
  · rintro ⟨isCurrent, ⟨v, found, same⟩ | ⟨missing, old, replaced, v, found, same⟩⟩
    · exact ⟨name, v, found, same, .inl ⟨isCurrent, rfl⟩⟩
    · exact ⟨old, v, found, same, .inr ⟨replaced, missing⟩⟩
  · rintro ⟨old, v, found, same, ⟨isCurrent, rfl⟩ | ⟨replaced, missing⟩⟩
    · exact ⟨isCurrent, .inl ⟨v, found, same⟩⟩
    · exact ⟨replacement?_of_replaced replaced, .inr ⟨missing, old, replaced, v, found, same⟩⟩

/-- The dump of variables that have plain values is read. -/
theorem readDump_dumpOf (isProtected : String → Bool) (folded : vs.Folded)
    (plain : ∀ {name v}, vs.find? name = some (.value v) → v.Plain 126) :
    readDump (dumpOf isProtected vs).compact = .ok (toldOf isProtected vs).renameAll := by
  have plainValues : ∀ e ∈ vs.values, e.2.Plain 126 := fun e mem => plain (mem_values_iff.mp mem)
  have plainDump : Json.Plain Json.depthLimit (dumpOf isProtected vs) := by
    refine .object fun member mem => ?_
    obtain ⟨e, inside, rfl⟩ := List.mem_map.mp mem
    exact (plain_dumped (plainValues e inside)).toJson
  rw [readDump, Json.parse?_compact plainDump, dumpOf]
  dsimp only
  rw [entries_ofList_values, List.foldl_map, toldOf, Dictionary.ofList, List.foldl_map]
  refine congrArg (fun ws : Variables => Except.ok ws.renameAll) (List.foldl_ext _ _ _ ?_)
  intro ws e mem
  rw [Variables.set, folded (mem_values_iff.mp mem), ofJson_dumped (plainValues e mem)]

/-! ## What is dumped and read back -/

/-- A dump that is written tells of the variables after the listed ones were computed. -/
theorem of_run_writeDump {isProtected : String → Bool} {m t : Memory} {text : String}
    (ran : (writeDump host listed isProtected).run.run m = (.ok text, t)) :
    (computeAll host listed).run.run m = (.ok (), t) ∧
      text = (dumpOf isProtected t.vars).compact := by
  obtain ⟨_, u, computing, writing⟩ := exists_of_run_bind_eq_ok ran
  rw [run_get_bind, run_pure] at writing
  cases writing
  exact ⟨computing, rfl⟩

theorem Twins.values_eq {name : String} {c d : Call} {m n : Memory}
    (twins : Twins vs name c d m n) : m.vars.values = n.vars.values := by
  refine eq_of_pairwise_lt Prod.fst (ordered_values _) (ordered_values _) ?_
  rintro ⟨other, v⟩
  rw [mem_values_iff, mem_values_iff]
  by_cases same : other = name
  · subst same
    rw [twins.left, twins.right]
    simp
  · rw [twins.others other same]

/-- Writing a dump cannot tell how a variable that is not needed is computed. -/
theorem blind_writeDump {name : String} {c d : Call} (notNeeded : ¬Needed host vs listed name)
    (isProtected : String → Bool) : Blind vs name c d (writeDump host listed isProtected) := by
  refine (blind_computeAll notNeeded fun _ mem => mem).bind fun _ m n twins => ⟨?_, twins⟩
  exact congrArg (fun values => Except.ok (Json.compact (.object (values.map fun e =>
    (e.1, (dumped isProtected e.1 e.2).toJson))))) twins.values_eq

/-- A variable that is not needed is pending after a dump, and by what method it would be
computed makes no difference. -/
theorem writeDump_of_not_needed {name : String} {c : Call} {m : Memory}
    (pending : m.vars.find? name = some (.pending c)) (notNeeded : ¬Needed host m.vars listed name)
    (isProtected : String → Bool) (d : Call) :
    (((writeDump host listed isProtected).run.run m).2.vars.find? name = some (.pending c)) ∧
      ((writeDump host listed isProtected).run.run
        { m with vars := m.vars.insert name (.pending d) }).1 =
          ((writeDump host listed isProtected).run.run m).1 := by
  have twins : Twins m.vars name c d m { m with vars := m.vars.insert name (.pending d) } := by
    constructor
    · exact pending
    · exact (Dictionary.find?_insert _ _ _ _).trans (if_pos rfl)
    · intro other different
      exact ((Dictionary.find?_insert _ _ _ _).trans (if_neg different)).symm
    · rfl
    · exact .refl
  obtain ⟨same, after⟩ := blind_writeDump notNeeded isProtected m _ twins
  exact ⟨after.left, same.symm⟩

/-- What holds of a dump of the memory `before`, which writing it has made `after`, and of the
variables that are read from it. -/
structure ReadBack (host : Host) (settings : Settings) (before after : Memory) (text : String)
    (loaded : Variables) : Prop where
  /-- Writing a dump gives values to pending variables and changes no other. -/
  settles : Settles before.vars after.vars
  /-- Every listed variable that was pending has a value now. -/
  computed : ∀ {name c}, name ∈ settings.dumpedVariables →
    before.vars.entry? name = some (.pending c) → ∃ v, after.vars.entry? name = some (.value v)
  /-- A variable that no listed one needs is pending still. -/
  untouched : ∀ {name c}, before.vars.find? name = some (.pending c) →
    ¬Needed host before.vars settings.dumpedVariables name →
    after.vars.find? name = some (.pending c)
  /-- By what method such a variable would be computed makes no difference to the dump. -/
  unasked : ∀ {name c}, before.vars.find? name = some (.pending c) →
    ¬Needed host before.vars settings.dumpedVariables name → ∀ d : Call,
    ((writeDump host settings.dumpedVariables settings.isProtected).run.run
      { before with vars := before.vars.insert name (.pending d) }).1 = .ok text
  /-- What is read back is kept under folded names. -/
  folded : loaded.Folded
  /-- Nothing that is read back is pending. -/
  noPending : ∀ name c, loaded.find? name ≠ some (.pending c)
  /-- Nothing is read back under an old name. -/
  noOld : ∀ {name}, (replacement? name).isSome → loaded.find? name = none
  /-- What has a value under a current name is read back under that name. -/
  current : ∀ {name v}, after.vars.find? name = some (.value v) → replacement? name = none →
    loaded.find? name = some (.value (told settings.isProtected name v))
  /-- What has a value under an old name is read back under the current one, unless that has a
  value itself. -/
  renamed : ∀ {old name v}, after.vars.find? old = some (.value v) →
    replacement? old = some name → (∀ w, after.vars.find? name ≠ some (.value w)) →
    loaded.find? name = some (.value (told settings.isProtected old v))
  /-- Nothing else is read back. -/
  nothingElse : ∀ {name v}, loaded.find? name = some (.value v) →
    ∃ old w, after.vars.find? old = some (.value w) ∧ v = told settings.isProtected old w ∧
      (replacement? old = none ∧ old = name ∨
        replacement? old = some name ∧ ∀ u, after.vars.find? name ≠ some (.value u))
  /-- A listed variable that was pending is read back, unless its name is an old one. -/
  listed : ∀ {name c}, name ∈ settings.dumpedVariables →
    before.vars.entry? name = some (.pending c) → replacement? (fold name) = none →
    ∃ v, loaded.entry? name = some (.value v)

/-- A dump is read back, and what is read is what was dumped. -/
theorem readDump_of_writeDump {host : Host} {settings : Settings} {before after : Memory}
    {text : String} (folded : before.vars.Folded)
    (ran : (writeDump host settings.dumpedVariables settings.isProtected).run.run before =
      (.ok text, after))
    (plain : ∀ {name v}, after.vars.find? name = some (.value v) → v.Plain 126) :
    ∃ loaded, readDump text = .ok loaded ∧ ReadBack host settings before after text loaded := by
  obtain ⟨computing, rfl⟩ := of_run_writeDump ran
  have settles := computeAll_settles host settings.dumpedVariables before
  rw [computing] at settles
  have foldedAfter := settles.folded folded
  have current : ∀ {name v}, after.vars.find? name = some (.value v) →
      replacement? name = none → (toldOf settings.isProtected after.vars).renameAll.find? name =
        some (.value (told settings.isProtected name v)) :=
    fun found isCurrent => find?_renameAll_toldOf.mpr ⟨_, _, found, rfl, .inl ⟨isCurrent, rfl⟩⟩
  refine ⟨_, readDump_dumpOf settings.isProtected foldedAfter plain, ?_⟩
  constructor
  case settles => exact settles
  case computed => exact fun mem pending => computeAll_computes computing mem pending
  case untouched =>
    intro name c pending notNeeded
    have untouched := (writeDump_of_not_needed pending notNeeded settings.isProtected c).1
    rw [ran] at untouched
    exact untouched
  case unasked =>
    intro name c pending notNeeded d
    rw [(writeDump_of_not_needed pending notNeeded settings.isProtected d).2, ran]
  case folded => exact (folded_toldOf foldedAfter).renameAll
  case noPending =>
    intro name c found
    obtain ⟨_, _, _, same, _⟩ := find?_renameAll_toldOf.mp found
    cases same
  case noOld => exact fun isOld => Variables.find?_renameAll_of_isSome _ isOld
  case current => exact current
  case renamed =>
    intro old name v found replaced missing
    exact find?_renameAll_toldOf.mpr ⟨old, v, found, rfl, .inr ⟨replaced, missing⟩⟩
  case nothingElse =>
    intro name v found
    obtain ⟨old, w, value, same, origin⟩ := find?_renameAll_toldOf.mp found
    cases same
    exact ⟨old, w, value, rfl, origin⟩
  case listed =>
    intro name c mem pending isCurrent
    obtain ⟨v, found⟩ := computeAll_computes computing mem pending
    exact ⟨_, current found isCurrent⟩

/-- Variables of which one is protected and one has an old name, whose current name is that of
one that is listed and pending. -/
def threeKinds : Memory where
  vars := ((Variables.set .empty "user_unnamed_ip" (.text "127.0.0.1")).set "old_text"
    (.list [.undefined])).setPending "old_wikitext" ⟨.intrinsic .length, [.text "user_unnamed_ip"]⟩
  requests := []

theorem readDump_of_writeDump_threeKinds : ∃ text after loaded,
    (writeDump .none ({} : Settings).dumpedVariables ({} : Settings).isProtected).run.run
      threeKinds = (.ok text, after) ∧
    readDump text = .ok loaded ∧ ReadBack .none {} threeKinds after text loaded := by
  have folded : threeKinds.vars.Folded :=
    ((Variables.folded_empty.set _ _).set _ _).setPending _ _
  generalize written : (writeDump .none ({} : Settings).dumpedVariables
    ({} : Settings).isProtected).run.run threeKinds = run
  have plain : ∀ e ∈ run.2.vars.values, e.2.Plain 126 := by
    rw [← written]
    decide +kernel
  have isSome : run.1.toOption.isSome = true := by
    rw [← written]
    decide +kernel
  obtain ⟨text, ok⟩ := exists_ok_of_isSome isSome
  have ran : run = (.ok text, run.2) := Prod.ext ok rfl
  obtain ⟨loaded, read, back⟩ := readDump_of_writeDump folded (written.trans ran)
    fun found => plain _ (mem_values_iff.mpr found)
  exact ⟨text, run.2, loaded, ran, read, back⟩

end EditGuard.Variable
