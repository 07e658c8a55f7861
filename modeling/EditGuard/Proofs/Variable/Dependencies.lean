import EditGuard.Proofs.Variable.Reading
import Mathlib.Logic.Relation

/-!
# What variables depend on

A pending variable that needs no host depends on the variables that the parameters of its
method name.  Unless a cycle of pending variables can be reached in this way, the methods
give a variable a value of its own, which this file defines without a memory.
-/

namespace EditGuard.Variable

/-! ## What a method gives -/

namespace Intrinsic

/-- The number of variables that a method is about.  Its first parameters name them. -/
def arity : Intrinsic → Nat
  | difference | subtraction | linksAdded | linksRemoved => 2
  | differenceSide | length | withoutTags | lines => 1

/-- The value that a method gives, from the values of the variables that it is about. -/
def result (i : Intrinsic) (params : List Value) (operand : Nat → Value) : Value :=
  match i with
  | difference => .text (Difference.ofTexts (operand 0).toText (operand 1).toText)
  | differenceSide =>
      .ofTexts (Difference.markedLines (sideMark params[1]?) (operand 0).toText)
  | length => .ofNat (operand 0).toText.length
  | subtraction => .int (subtract (operand 0).toInt (operand 1).toInt)
  | linksAdded => linksOnlyIn (operand 1) (operand 0)
  | linksRemoved => linksOnlyIn (operand 0) (operand 1)
  | withoutTags => .text (String.ofList (Text.withoutTags false (operand 0).toText.toList))
  | lines => .ofTexts ((Text.feedLines (operand 0).toText.toList).map String.ofList)

variable {i : Intrinsic} {params : List Value}

/-- A method gives what it gives to the values of its variables. -/
theorem result_congr {operand other : Nat → Value}
    (same : ∀ k < i.arity, operand k = other k) :
    i.result params operand = i.result params other := by
  cases i
  case difference | subtraction | linksAdded | linksRemoved =>
    have first := same 0 Nat.zero_lt_two
    have second := same 1 Nat.one_lt_two
    rw [result, result, first, second]
  case differenceSide | length | withoutTags | lines =>
    have first := same 0 Nat.one_pos
    rw [result, result, first]

/-- A method about one variable reads it. -/
theorem script_of_arity_one (one : i.arity = 1) :
    i.script params = readParam params 0 fun v => .done (i.result params fun _ => v) := by
  cases i
  case difference | subtraction | linksAdded | linksRemoved => contradiction
  case differenceSide | length | withoutTags | lines => rfl

/-- A method about two variables reads one after the other. -/
theorem script_of_arity_two (two : i.arity = 2) :
    i.script params = readParam params 0 fun v => readParam params 1 fun w =>
      .done (i.result params fun k => if k = 0 then v else w) := by
  cases i
  case difference | subtraction | linksAdded | linksRemoved => rfl
  case differenceSide | length | withoutTags | lines => contradiction

theorem arity_eq (i : Intrinsic) : i.arity = 1 ∨ i.arity = 2 := by
  cases i <;> decide

end Intrinsic

/-! ## What a call depends on -/

namespace Call

/-- The variable that a parameter names, by the name under which it is kept. -/
def target? (c : Call) (k : Nat) : Option String :=
  match c.params[k]? with
  | some (.text name) => some (fold name)
  | _ => none

/-- A call that needs no host, and names a variable wherever its method is about one. -/
def namesVariables (c : Call) : Bool :=
  match c.method with
  | .intrinsic i => (List.range i.arity).all fun k => (c.target? k).isSome
  | .host _ => false

/-- A call is about the variable that is kept under a name. -/
def Reads (c : Call) (name : String) : Prop :=
  ∃ i k, c.method = .intrinsic i ∧ k < i.arity ∧ c.target? k = some name

theorem exists_of_namesVariables {c : Call} (names : c.namesVariables) :
    ∃ i, c.method = .intrinsic i ∧ ∀ k < i.arity, ∃ name, c.target? k = some name := by
  unfold namesVariables at names
  split at names
  · rename_i i method
    refine ⟨i, method, fun k below => Option.isSome_iff_exists.mp ?_⟩
    exact List.all_eq_true.mp names k (List.mem_range.mpr below)
  · contradiction

end Call

/-- A variable that has a value, or whose call needs no host and names what it is about. -/
def Entry.namesVariables : Entry → Bool
  | value _ => true
  | pending c => c.namesVariables

/-! ## Dependencies and values -/

/-- To compute one variable, another one is read. -/
def DependsOn (vs : Variables) (name other : String) : Prop :=
  ∃ c, vs.find? name = some (.pending c) ∧ c.Reads other

/-- What is needed to compute a variable, directly or not, and the variable itself. -/
abbrev Reaches (vs : Variables) : String → String → Prop :=
  Relation.ReflTransGen (DependsOn vs)

/-- A cycle of pending variables is reached from a variable. -/
def Cyclic (vs : Variables) (name : String) : Prop :=
  ∃ other, Reaches vs name other ∧ Relation.TransGen (DependsOn vs) other other

/-- The value of a variable, as the methods define it: variables that are missing are
undefined, and pending ones are computed from those that they depend on. -/
inductive Means (vs : Variables) : String → Value → Prop
  | value {name : String} {v : Value} (found : vs.find? name = some (.value v)) :
      Means vs name v
  | missing {name : String} (found : vs.find? name = none) : Means vs name .undefined
  | computed {name : String} {c : Call} {i : Intrinsic} {target : Nat → String}
      {operand : Nat → Value} (found : vs.find? name = some (.pending c))
      (method : c.method = .intrinsic i)
      (targets : ∀ k < i.arity, c.target? k = some (target k))
      (operands : ∀ k < i.arity, Means vs (target k) (operand k)) :
      Means vs name (i.result c.params operand)

section Graph

variable {vs : Variables} {name other : String} {v w : Value}

theorem Cyclic.of_dependsOn (depends : DependsOn vs name other) (cyclic : Cyclic vs other) :
    Cyclic vs name := by
  obtain ⟨turn, reached, around⟩ := cyclic
  exact ⟨turn, .head depends reached, around⟩

/-- From which a cycle is reached, that depends on something from which it is reached. -/
theorem Cyclic.exists_dependsOn (cyclic : Cyclic vs name) :
    ∃ other, DependsOn vs name other ∧ Cyclic vs other := by
  obtain ⟨turn, reached, around⟩ := cyclic
  rcases reached.cases_head with rfl | ⟨other, depends, rest⟩
  · obtain ⟨other, depends, rest⟩ := Relation.TransGen.head'_iff.mp around
    exact ⟨other, depends, name, rest, around⟩
  · exact ⟨other, depends, turn, rest, around⟩

/-- From a variable that has a value no cycle is reached. -/
theorem Means.not_cyclic (means : Means vs name v) : ¬Cyclic vs name := by
  induction means with
  | value found =>
      intro cyclic
      obtain ⟨other, ⟨c, pending, -⟩, -⟩ := cyclic.exists_dependsOn
      cases found.symm.trans pending
  | missing found =>
      intro cyclic
      obtain ⟨other, ⟨c, pending, -⟩, -⟩ := cyclic.exists_dependsOn
      cases found.symm.trans pending
  | computed found method targets operands ih =>
      intro cyclic
      obtain ⟨other, ⟨c, pending, i, k, same, below, target⟩, further⟩ := cyclic.exists_dependsOn
      cases found.symm.trans pending
      cases method.symm.trans same
      cases (targets k below).symm.trans target
      exact ih k below further

/-- A variable has at most one value. -/
theorem Means.unique (means : Means vs name v) (meansOther : Means vs name w) : v = w := by
  induction means generalizing w with
  | value found =>
      cases meansOther with
      | value foundOther =>
          cases found.symm.trans foundOther
          rfl
      | missing foundOther => cases found.symm.trans foundOther
      | computed foundOther _ _ _ => cases found.symm.trans foundOther
  | missing found =>
      cases meansOther with
      | value foundOther => cases found.symm.trans foundOther
      | missing _ => rfl
      | computed foundOther _ _ _ => cases found.symm.trans foundOther
  | computed found method targets operands ih =>
      cases meansOther with
      | value foundOther => cases found.symm.trans foundOther
      | missing foundOther => cases found.symm.trans foundOther
      | computed foundOther methodOther targetsOther operandsOther =>
          cases found.symm.trans foundOther
          cases method.symm.trans methodOther
          apply Intrinsic.result_congr
          intro k below
          have sameTarget := (targets k below).symm.trans (targetsOther k below)
          have operand := operandsOther k below
          rw [← Option.some.inj sameTarget] at operand
          exact ih k below operand

end Graph

end EditGuard.Variable
