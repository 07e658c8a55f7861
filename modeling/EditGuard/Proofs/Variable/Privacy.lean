import EditGuard.Consequence.Ledger
import EditGuard.Guard
import EditGuard.Proofs.Ordering
import EditGuard.Proofs.Value.Settling
import EditGuard.Proofs.Variable.Dumping

/-!
# What a dump tells of protected variables

Of a protected variable a dump tells only whether it counts as true.  Two actions whose
variables all have values have the same dump exactly if these look alike in it.  The settings
have to name the protected variables in lower case: a name in other letters is that of no
variable that is kept, and protects none.
-/

namespace EditGuard.Variable

/-! ## Variables that look alike -/

/-- No variable is still to be computed. -/
def Known (vs : Variables) : Prop :=
  ∀ name c, vs.find? name ≠ some (.pending c)

/-- Two actions have the same variables, whose values differ in nothing that a dump tells. -/
structure LookAlike (isProtected : String → Bool) (vs ws : Variables) : Prop where
  keys : vs.keys = ws.keys
  values : ∀ {name v w}, vs.find? name = some (.value v) → ws.find? name = some (.value w) →
    if isProtected name then v.toBool = w.toBool else v.settled = w.settled

/-- Two actions have the same variables and differ only in the values of hidden ones, of which
the same count as true. -/
structure AgreeExcept (hidden : String → Prop) (vs ws : Variables) : Prop where
  keys : vs.keys = ws.keys
  shown : ∀ {name v w}, vs.find? name = some (.value v) → ws.find? name = some (.value w) →
    ¬hidden name → v = w
  truth : ∀ {name v w}, vs.find? name = some (.value v) → ws.find? name = some (.value w) →
    hidden name → v.toBool = w.toBool

/-- The settings name a variable among the protected ones, in letters of either case. -/
def NamedProtected (settings : Settings) (name : String) : Prop :=
  ∃ entry ∈ settings.protectedVariables, fold entry = name

variable {isProtected : String → Bool} {vs ws : Variables}

theorem known_iff : Known vs ↔ ∀ e ∈ vs.entries, e.2.isPending = false := by
  constructor
  · rintro known ⟨name, entry⟩ mem
    cases entry with
    | value v => rfl
    | pending c => exact absurd (Dictionary.mem_entries_iff.mp mem) (known name c)
  · intro settled name c found
    cases settled _ (Dictionary.mem_entries_iff.mpr found)

instance : Decidable (Known vs) :=
  decidable_of_iff _ known_iff.symm

theorem Known.exists_value (known : Known vs) {name : String} (mem : name ∈ vs.keys) :
    ∃ v, vs.find? name = some (.value v) := by
  obtain ⟨entry, found⟩ := Dictionary.mem_keys_iff.mp mem
  cases entry with
  | value v => exact ⟨v, found⟩
  | pending c => exact absurd found (known name c)

theorem Known.map_fst_values (known : Known vs) : vs.values.map Prod.fst = vs.keys := by
  rw [Variables.values, List.map_filterMap, Dictionary.keys, ← List.filterMap_eq_map]
  refine List.filterMap_congr ?_
  rintro ⟨name, entry⟩ mem
  cases entry with
  | value v => rfl
  | pending c => cases known_iff.mp known _ mem

theorem LookAlike.symm (alike : LookAlike isProtected vs ws) : LookAlike isProtected ws vs := by
  constructor
  · exact alike.keys.symm
  · intro name v w found foundToo
    have same := alike.values foundToo found
    split
    · next protects =>
        rw [if_pos protects] at same
        exact same.symm
    · next shows =>
        rw [if_neg shows] at same
        exact same.symm

/-- Actions that differ in the value of one hidden variable agree except for it. -/
theorem agreeExcept_set {hidden : String → Prop} (vs : Variables) {name : String}
    (isHidden : hidden (fold name)) {v w : Value} (truth : v.toBool = w.toBool) :
    AgreeExcept hidden (vs.set name v) (vs.set name w) := by
  have found (u : Value) (other : String) : (vs.set name u).find? other =
      if other = fold name then some (.value u) else vs.find? other :=
    Dictionary.find?_insert _ _ _ _
  have ordered (ws : Variables) : ws.keys.Pairwise fun a b => compare a b = .lt :=
    List.pairwise_map.mpr ws.ordered
  constructor
  · refine eq_of_pairwise_lt id (ordered _) (ordered _) fun other => ?_
    rw [Dictionary.mem_keys_iff, Dictionary.mem_keys_iff, found, found]
    split
    · exact ⟨fun _ => ⟨_, rfl⟩, fun _ => ⟨_, rfl⟩⟩
    · rfl
  · intro other a b foundLeft foundRight shown
    have different : other ≠ fold name := fun same => shown (same ▸ isHidden)
    rw [found, if_neg different] at foundLeft foundRight
    cases foundLeft.symm.trans foundRight
    rfl
  · intro other a b foundLeft foundRight _
    rw [found] at foundLeft foundRight
    split at foundLeft
    · next same =>
        rw [if_pos same] at foundRight
        cases foundLeft
        cases foundRight
        exact truth
    · next different =>
        rw [if_neg different] at foundRight
        cases foundLeft.symm.trans foundRight
        rfl

/-- Variables that differ in values of protected ones only look alike. -/
theorem AgreeExcept.lookAlike {hidden : String → Prop} (agree : AgreeExcept hidden vs ws)
    (protects : ∀ name, hidden name → isProtected name = true) :
    LookAlike isProtected vs ws := by
  constructor
  · exact agree.keys
  · intro name v w found foundToo
    by_cases isHidden : hidden name
    · rw [if_pos (protects name isHidden)]
      exact agree.truth found foundToo isHidden
    · cases agree.shown found foundToo isHidden
      split <;> rfl

/-! ## Dumps that are the same -/

/-- The documents of what a dump tells of two values. -/
theorem toJson_dumped_eq_iff {name : String} {v w : Value} :
    (dumped isProtected name v).toJson = (dumped isProtected name w).toJson ↔
      if isProtected name then v.toBool = w.toBool else v.settled = w.settled := by
  rw [dumped, dumped]
  split
  · exact Json.bool.injEq _ _ ▸ Iff.rfl
  · exact Value.toJson_eq_iff

/-- The members of the document of a dump. -/
def dumpMembers (isProtected : String → Bool) (vs : Variables) : List (String × Json) :=
  vs.values.map fun e => (e.1, (dumped isProtected e.1 e.2).toJson)

theorem mem_dumpMembers {name : String} {j : Json} :
    (name, j) ∈ dumpMembers isProtected vs ↔
      ∃ v, vs.find? name = some (.value v) ∧ (dumped isProtected name v).toJson = j := by
  rw [dumpMembers, List.mem_map]
  constructor
  · rintro ⟨⟨other, v⟩, mem, same⟩
    cases same
    exact ⟨v, mem_values_iff.mp mem, rfl⟩
  · rintro ⟨v, found, rfl⟩
    exact ⟨(name, v), mem_values_iff.mpr found, rfl⟩

theorem Known.map_fst_dumpMembers (known : Known vs) :
    (dumpMembers isProtected vs).map Prod.fst = vs.keys := by
  rw [dumpMembers, List.map_map]
  exact known.map_fst_values

theorem ordered_dumpMembers :
    (dumpMembers isProtected vs).Pairwise fun a b => compare a.1 b.1 = .lt :=
  List.pairwise_map.mpr (ordered_values vs)

theorem LookAlike.mem_dumpMembers (alike : LookAlike isProtected vs ws) (known : Known ws)
    {member : String × Json} (mem : member ∈ dumpMembers isProtected vs) :
    member ∈ dumpMembers isProtected ws := by
  obtain ⟨v, found, told⟩ := Variable.mem_dumpMembers.mp mem
  have isKey : member.1 ∈ ws.keys := alike.keys ▸ Dictionary.mem_keys_iff.mpr ⟨_, found⟩
  obtain ⟨w, foundToo⟩ := known.exists_value isKey
  refine Variable.mem_dumpMembers.mpr ⟨w, foundToo, ?_⟩
  rw [← told]
  exact (toJson_dumped_eq_iff.mpr (alike.values found foundToo)).symm

/-- The members are the same exactly if the variables look alike. -/
theorem dumpMembers_eq_iff (known : Known vs) (knownToo : Known ws) :
    dumpMembers isProtected vs = dumpMembers isProtected ws ↔ LookAlike isProtected vs ws := by
  constructor
  · intro same
    constructor
    · calc
        vs.keys = (dumpMembers isProtected vs).map Prod.fst := known.map_fst_dumpMembers.symm
        _ = (dumpMembers isProtected ws).map Prod.fst := congrArg _ same
        _ = ws.keys := knownToo.map_fst_dumpMembers
    · intro name v w found foundToo
      have mem : (name, (dumped isProtected name v).toJson) ∈ dumpMembers isProtected vs :=
        mem_dumpMembers.mpr ⟨v, found, rfl⟩
      rw [same] at mem
      obtain ⟨u, other, told⟩ := mem_dumpMembers.mp mem
      cases foundToo.symm.trans other
      exact toJson_dumped_eq_iff.mp told.symm
  · intro alike
    refine eq_of_pairwise_lt Prod.fst ordered_dumpMembers ordered_dumpMembers ?_
    intro member
    exact ⟨alike.mem_dumpMembers knownToo, alike.symm.mem_dumpMembers known⟩

theorem proper_dumpOf : (dumpOf isProtected vs).Proper := by
  refine .object fun member mem => ?_
  obtain ⟨e, -, rfl⟩ := List.mem_map.mp mem
  exact Value.proper_toJson _

/-- The texts are the same exactly if the variables look alike. -/
theorem compact_dumpOf_eq_iff (known : Known vs) (knownToo : Known ws) :
    (dumpOf isProtected vs).compact = (dumpOf isProtected ws).compact ↔
      LookAlike isProtected vs ws := by
  rw [← dumpMembers_eq_iff known knownToo]
  constructor
  · intro same
    exact Json.object.inj (Json.compact_inj proper_dumpOf proper_dumpOf same)
  · intro same
    exact congrArg (fun members => (Json.object members).compact) same

/-! ## Writing dumps -/

/-- Where every variable has a value, there is nothing to compute. -/
theorem run_computeAll_of_known {host : Host} {names : List String} {m : Memory}
    (known : Known m.vars) : (computeAll host names).run.run m = (.ok (), m) := by
  induction names with
  | nil => rfl
  | cons name names ih =>
      rw [run_computeAll_of_settled fun c => known (fold name) c]
      exact ih

theorem run_writeDump_of_known {host : Host} {names : List String} {m : Memory}
    (known : Known m.vars) :
    (writeDump host names isProtected).run.run m = (.ok (dumpOf isProtected m.vars).compact, m) :=
  run_bind_of_ok (run_computeAll_of_known known)

theorem dumpFor_of_known {settings : Settings} {host : Host} {matched : List Filter} {m : Memory}
    (known : Known m.vars) :
    Guard.dumpFor settings host matched m =
      (if matched.isEmpty then none else some (dumpOf settings.isProtected m.vars).compact, m) := by
  rw [Guard.dumpFor, run_writeDump_of_known known]
  split <;> rfl

theorem isProtected_of_namedProtected {settings : Settings} {name : String}
    (lower : ∀ entry ∈ settings.protectedVariables, fold entry = entry)
    (named : NamedProtected settings name) : settings.isProtected name = true := by
  obtain ⟨entry, mem, rfl⟩ := named
  rw [lower entry mem]
  exact List.contains_iff_mem.mpr mem

/-- Variables that all have values are always dumped, and two actions have the same dump exactly
if their variables look alike.  So if the settings name protected variables in lower case, no
more of the values of these than whether they count as true reaches the dump, or what is logged
when consequences are carried out. -/
theorem writeDump_tells {σ : Type} (settings : Settings) (host : Host) {m n : Memory}
    (known : Known m.vars) (knownToo : Known n.vars) :
    ∃ text other,
      (writeDump host settings.dumpedVariables settings.isProtected).run.run m = (.ok text, m) ∧
      (writeDump host settings.dumpedVariables settings.isProtected).run.run n = (.ok other, n) ∧
      (text = other ↔ LookAlike settings.isProtected m.vars n.vars) ∧
      ((∀ entry ∈ settings.protectedVariables, fold entry = entry) →
        AgreeExcept (NamedProtected settings) m.vars n.vars →
          text = other ∧
          ∀ (platform : Platform σ) (filters : FilterSource) (action : Action)
            (matched : List Filter) (scene : Scene σ),
            (Execution.run platform settings filters action matched
              (Guard.dumpFor settings host matched m).1).run scene =
            (Execution.run platform settings filters action matched
              (Guard.dumpFor settings host matched n).1).run scene) := by
  have exactly : (dumpOf settings.isProtected m.vars).compact =
      (dumpOf settings.isProtected n.vars).compact ↔
        LookAlike settings.isProtected m.vars n.vars := compact_dumpOf_eq_iff known knownToo
  refine ⟨_, _, run_writeDump_of_known known, run_writeDump_of_known knownToo, exactly, ?_⟩
  intro lower agree
  have same := exactly.mpr
    (agree.lookAlike fun _ named => isProtected_of_namedProtected lower named)
  refine ⟨same, ?_⟩
  intro platform filters action matched scene
  rw [dumpFor_of_known known, dumpFor_of_known knownToo, same]

/-- An action on a page, of a user without a name, from an address. -/
def unnamedFrom (address : String) : Memory :=
  ⟨Variables.set (.set .empty "page_title" (.text "Berlin")) "user_unnamed_ip" (.text address), []⟩

/-- The dumps of actions from two addresses are the same by default. -/
theorem writeDump_tells_unnamedFrom :
    ∃ text,
      (writeDump .none ({} : Settings).dumpedVariables ({} : Settings).isProtected).run.run
        (unnamedFrom "192.0.2.7") = (.ok text, unnamedFrom "192.0.2.7") ∧
      (writeDump .none ({} : Settings).dumpedVariables ({} : Settings).isProtected).run.run
        (unnamedFrom "192.0.2.8") = (.ok text, unnamedFrom "192.0.2.8") := by
  obtain ⟨text, other, ran, ranToo, -, hides⟩ :=
    @writeDump_tells Ledger {} .none (unnamedFrom "192.0.2.7") (unnamedFrom "192.0.2.8")
      (by decide +kernel) (by decide +kernel)
  have agree : AgreeExcept (NamedProtected {}) (unnamedFrom "192.0.2.7").vars
      (unnamedFrom "192.0.2.8").vars :=
    agreeExcept_set _ ⟨"user_unnamed_ip", List.mem_singleton.mpr rfl, rfl⟩ (by decide +kernel)
  obtain ⟨rfl, -⟩ := hides (by decide +kernel) agree
  exact ⟨text, ran, ranToo⟩

/-- Settings that name the protected variable in letters of either case. -/
def capitalized : Settings :=
  { protectedVariables := ["User_Unnamed_IP"] }

/-- A variable that the settings name in other letters than lower ones is not protected: the
dumps of actions from two addresses tell them apart. -/
theorem writeDump_capitalized :
    AgreeExcept (NamedProtected capitalized) (unnamedFrom "192.0.2.7").vars
        (unnamedFrom "192.0.2.8").vars ∧
      ∃ text other,
        (writeDump .none capitalized.dumpedVariables capitalized.isProtected).run.run
          (unnamedFrom "192.0.2.7") = (.ok text, unnamedFrom "192.0.2.7") ∧
        (writeDump .none capitalized.dumpedVariables capitalized.isProtected).run.run
          (unnamedFrom "192.0.2.8") = (.ok other, unnamedFrom "192.0.2.8") ∧
        text ≠ other := by
  have known : Known (unnamedFrom "192.0.2.7").vars := by decide +kernel
  have knownToo : Known (unnamedFrom "192.0.2.8").vars := by decide +kernel
  have found (address : String) : (unnamedFrom address).vars.find? (fold "user_unnamed_ip") =
      some (.value (.text address)) :=
    (Dictionary.find?_insert _ _ _ _).trans (if_pos rfl)
  have exposed : capitalized.isProtected (fold "user_unnamed_ip") = false := by decide +kernel
  have named : NamedProtected capitalized (fold "user_unnamed_ip") := by
    have folded : fold "user_unnamed_ip" = "user_unnamed_ip" := by decide +kernel
    rw [folded]
    exact ⟨"User_Unnamed_IP", List.mem_singleton.mpr rfl, by decide +kernel⟩
  refine ⟨agreeExcept_set _ named (by decide +kernel), _, _, run_writeDump_of_known known,
    run_writeDump_of_known knownToo, ?_⟩
  intro same
  have told := ((compact_dumpOf_eq_iff known knownToo).mp same).values (found _) (found _)
  rw [exposed] at told
  exact absurd (Value.text.inj told) (by decide +kernel)

end EditGuard.Variable
