import EditGuard.Proofs.Number.Order
import EditGuard.Rule.Operation
import Mathlib.Data.String.Basic

/-!
# Loose comparison

Loose equality and the loose order are defined apart.  They agree, and the order turned
around is the reverse.  Where no NaN is in a value it is equal to itself, and values are in
exactly one of the three orders.
-/

namespace EditGuard.Value

/-! ## Texts and truth values -/

theorem compareText_swap (a b : String) : compareText b a = (compareText a b).swap := by
  rw [compareText, compareText]
  rcases lt_trichotomy a b with less | same | greater
  · rw [if_pos less, if_neg less.asymm, if_neg less.ne']
    rfl
  · rw [if_neg same.not_lt, if_neg same.not_gt, if_pos same, if_pos same.symm]
    rfl
  · rw [if_pos greater, if_neg greater.asymm, if_neg greater.ne']
    rfl

theorem compareText_self (a : String) : compareText a a = .eq := by
  rw [compareText, if_neg (lt_irrefl a), if_pos rfl]

theorem compareNumeral?_swap (a b : String) :
    compareNumeral? b a = (compareNumeral? a b).map Ordering.swap := by
  rw [compareNumeral?, compareNumeral?]
  cases Number.ofText? a with
  | none => cases Number.ofText? b <;> exact congrArg some (compareText_swap a b)
  | some x =>
      cases Number.ofText? b with
      | none => exact congrArg some (compareText_swap a b)
      | some y => exact Number.compare?_swap x y

/-- A text is equal to itself, also as a number. -/
theorem compareNumeral?_self (a : String) : compareNumeral? a a = some .eq := by
  rw [compareNumeral?]
  cases denotes : Number.ofText? a with
  | none => exact congrArg some (compareText_self a)
  | some x => exact Number.compare?_self (Number.isNaN_of_ofText? denotes)

/-- Two texts are always in order. -/
theorem compareNumeral?_ne_none (a b : String) : compareNumeral? a b ≠ none := by
  intro unordered
  rw [compareNumeral?] at unordered
  split at unordered
  · rename_i x y denotes denotesOther
    rcases Number.isNaN_of_compare? unordered with isNaN | isNaN
    · rw [Number.isNaN_of_ofText? denotes] at isNaN
      contradiction
    · rw [Number.isNaN_of_ofText? denotesOther] at isNaN
      contradiction
  · contradiction

theorem compareBool_swap (a b : Bool) : compareBool b a = (compareBool a b).swap := by
  cases a <;> cases b <;> rfl

/-! ## The order turned around -/

def isList : Value → Bool
  | list _ => true
  | _ => false

/-- The kinds of two values, not both lists, choose one comparison for both directions. -/
theorem compare?_swap_of_atom {a b : Value} (atom : a.isList = false ∨ b.isList = false) :
    b.compare? a = (a.compare? b).map Ordering.swap := by
  cases a <;> cases b <;> simp only [compare?] <;> first
    | exact compareNumeral?_swap _ _
    | exact congrArg some (compareBool_swap _ _)
    | exact Number.compare?_swap _ _
    | rfl
    | simp [isList] at atom

theorem compare?_list (as bs : List Value) :
    (list as).compare? (list bs) =
      if as.length = bs.length then compareItems? as bs
      else some (Ord.compare as.length bs.length) := by
  rw [compare?]

theorem compareItems?_cons (a b : Value) (as bs : List Value) :
    compareItems? (a :: as) (b :: bs) =
      if a.compare? b = some .eq then compareItems? as bs else a.compare? b := by
  rw [compareItems?]
  rcases a.compare? b with _ | _ | _ | _ <;> rfl

mutual

theorem compare?_swap : ∀ a b : Value, b.compare? a = (a.compare? b).map Ordering.swap
  | list as, list bs => by
      rw [compare?_list, compare?_list]
      by_cases same : as.length = bs.length
      · rw [if_pos same, if_pos same.symm]
        exact compareItems?_swap as bs
      · rw [if_neg same, if_neg (Ne.symm same)]
        exact congrArg some (Nat.compare_swap _ _).symm
  | list _, undefined | list _, null | list _, bool _ | list _, int _ | list _, float _
  | list _, text _ => compare?_swap_of_atom (.inr rfl)
  | undefined, _ | null, _ | bool _, _ | int _, _ | float _, _ | text _, _ =>
      compare?_swap_of_atom (.inl rfl)

theorem compareItems?_swap : ∀ as bs : List Value,
    compareItems? bs as = (compareItems? as bs).map Ordering.swap
  | a :: as, b :: bs => by
      have first := compare?_swap a b
      rw [compareItems?_cons, compareItems?_cons, first, compareItems?_swap as bs]
      rcases a.compare? b with _ | _ | _ | _ <;> rfl
  | [], [] | [], _ :: _ | _ :: _, [] => rfl

end

/-! ## Equality -/

theorem looseEq_of_atom {a b : Value} (atom : a.isList = false ∨ b.isList = false) :
    a.looseEq b = (a.compare? b == some .eq) := by
  rw [looseEq]
  rintro as bs rfl rfl
  rcases atom with atom | atom
  · cases atom
  · cases atom

mutual

/-- Values are loosely equal where the order says that they are. -/
theorem looseEq_eq : ∀ a b : Value, a.looseEq b = (a.compare? b == some .eq)
  | list as, list bs => by
      rw [looseEq, compare?_list]
      by_cases same : as.length = bs.length
      · rw [if_pos same, looseEqItems_eq as bs, beq_iff_eq.mpr same, Bool.true_and]
      · rw [if_neg same, beq_eq_false_iff_ne.mpr same, Bool.false_and]
        have different : Ord.compare as.length bs.length ≠ .eq :=
          fun equal => same (Nat.compare_eq_eq.mp equal)
        simp [different]
  | list _, undefined | list _, null | list _, bool _ | list _, int _ | list _, float _
  | list _, text _ => looseEq_of_atom (.inr rfl)
  | undefined, _ | null, _ | bool _, _ | int _, _ | float _, _ | text _, _ =>
      looseEq_of_atom (.inl rfl)

theorem looseEqItems_eq : ∀ as bs : List Value,
    looseEqItems as bs = (compareItems? as bs == some .eq)
  | a :: as, b :: bs => by
      rw [looseEqItems, compareItems?_cons, looseEq_eq a b, looseEqItems_eq as bs]
      rcases a.compare? b with _ | _ | _ | _ <;> rfl
  | [], [] | [], _ :: _ | _ :: _, [] => rfl

end

/-! ## Values without NaN -/

mutual

/-- Whether a value is NaN, or a list that has one at some depth. -/
def hasNaN : Value → Bool
  | float x => x.isNaN
  | list items => itemsHaveNaN items
  | _ => false

def itemsHaveNaN : List Value → Bool
  | [] => false
  | item :: items => item.hasNaN || itemsHaveNaN items

end

theorem isNaN_toNumber {v : Value} (isNaN : v.toNumber.isNaN = true) : v.hasNaN = true := by
  cases v with
  | float x => exact isNaN
  | text s =>
      rw [toNumber, Number.isNaN_ofTextPrefix] at isNaN
      contradiction
  | _ => contradiction

theorem hasNaN_of_number {a b : Value} (unordered : a.toNumber.compare? b.toNumber = none) :
    a.hasNaN = true ∨ b.hasNaN = true :=
  (Number.isNaN_of_compare? unordered).imp isNaN_toNumber isNaN_toNumber

theorem hasNaN_of_atom {a b : Value} (atom : a.isList = false ∨ b.isList = false)
    (unordered : a.compare? b = none) : a.hasNaN = true ∨ b.hasNaN = true := by
  cases a <;> cases b <;> simp only [compare?] at unordered <;> first
    | exact absurd unordered (compareNumeral?_ne_none _ _)
    | exact hasNaN_of_number unordered
    | contradiction
    | simp [isList] at atom

mutual

/-- Only values with NaN have no order. -/
theorem hasNaN_of_compare? : ∀ a b : Value, a.compare? b = none →
    a.hasNaN = true ∨ b.hasNaN = true
  | list as, list bs => fun unordered => by
      rw [compare?_list] at unordered
      split at unordered
      · exact itemsHaveNaN_of_compareItems? as bs unordered
      · contradiction
  | list _, undefined | list _, null | list _, bool _ | list _, int _ | list _, float _
  | list _, text _ => hasNaN_of_atom (.inr rfl)
  | undefined, _ | null, _ | bool _, _ | int _, _ | float _, _ | text _, _ =>
      hasNaN_of_atom (.inl rfl)

theorem itemsHaveNaN_of_compareItems? : ∀ as bs : List Value, compareItems? as bs = none →
    itemsHaveNaN as = true ∨ itemsHaveNaN bs = true
  | a :: as, b :: bs => fun unordered => by
      rw [compareItems?_cons] at unordered
      rw [itemsHaveNaN, itemsHaveNaN, Bool.or_eq_true, Bool.or_eq_true]
      split at unordered
      · exact (itemsHaveNaN_of_compareItems? as bs unordered).imp .inr .inr
      · exact (hasNaN_of_compare? a b unordered).imp .inl .inl
  | [], [] | [], _ :: _ | _ :: _, [] => fun unordered => by contradiction

end

mutual

/-- Values without NaN are equal to themselves. -/
theorem compare?_self : ∀ v : Value, v.hasNaN = false → v.compare? v = some .eq
  | list items => fun notNaN => by
      rw [compare?_list, if_pos rfl]
      exact compareItems?_self items notNaN
  | float x => fun notNaN => by
      simp only [compare?]
      exact Number.compare?_self notNaN
  | text s => fun _ => by
      rw [compare?]
      exact compareNumeral?_self s
  | int n => fun _ => by
      simp only [compare?]
      exact Number.compare?_self rfl
  | bool b => fun _ => by cases b <;> rfl
  | undefined | null => fun _ => rfl

theorem compareItems?_self : ∀ items : List Value, itemsHaveNaN items = false →
    compareItems? items items = some .eq
  | [] => fun _ => rfl
  | item :: items => fun notNaN => by
      rw [itemsHaveNaN, Bool.or_eq_false_iff] at notNaN
      rw [compareItems?_cons, if_pos (compare?_self item notNaN.1)]
      exact compareItems?_self items notNaN.2

end

theorem compare?_of_strictEq_atom {a b : Value} (atom : a.isList = false ∨ b.isList = false)
    (same : a.strictEq b = true) : a.compare? b = some .eq := by
  unfold strictEq at same
  split at same
  · rfl
  · rfl
  · rename_i b c
    rw [beq_iff_eq.mp same]
    exact compare?_self (bool c) rfl
  · rename_i m n
    rw [beq_iff_eq.mp same]
    exact compare?_self (int n) rfl
  · -- The two zeros are equal without being the same.
    simp only [compare?]
    exact Number.compareFloat_of_beq same
  · rename_i s t
    rw [beq_iff_eq.mp same]
    exact compare?_self (text t) rfl
  · rcases atom with atom | atom
    · cases atom
    · cases atom
  · contradiction

mutual

/-- What is strictly equal is loosely equal. -/
theorem compare?_of_strictEq : ∀ a b : Value, a.strictEq b = true → a.compare? b = some .eq
  | list as, list bs => fun same => by
      rw [strictEq, Bool.and_eq_true, beq_iff_eq] at same
      rw [compare?_list, if_pos same.1]
      exact compareItems?_of_strictEq as bs same.2
  | list _, undefined | list _, null | list _, bool _ | list _, int _ | list _, float _
  | list _, text _ => compare?_of_strictEq_atom (.inr rfl)
  | undefined, _ | null, _ | bool _, _ | int _, _ | float _, _ | text _, _ =>
      compare?_of_strictEq_atom (.inl rfl)

theorem compareItems?_of_strictEq : ∀ as bs : List Value, strictEqItems as bs = true →
    compareItems? as bs = some .eq
  | a :: as, b :: bs => fun same => by
      rw [strictEqItems, Bool.and_eq_true] at same
      rw [compareItems?_cons, if_pos (compare?_of_strictEq a b same.1)]
      exact compareItems?_of_strictEq as bs same.2
  | [], [] | [], _ :: _ | _ :: _, [] => fun _ => rfl

end

end EditGuard.Value
