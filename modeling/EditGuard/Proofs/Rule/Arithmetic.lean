import EditGuard.Proofs.Number.Arithmetic
import EditGuard.Rule.Operation

/-!
# Arithmetic on integer values

The operators of rules give exact integers: the result of an operator on two integers is the
exact one where that is in range, and a floating point number where it is not.  They fail on a
division by zero and on nothing else.
-/

namespace EditGuard.Rule

open Number (Represents exponentLimit)

/-! ## Operators on numbers -/

theorem UnaryOp.neg_apply_int (a : Int64) :
    UnaryOp.neg.apply (.int a) = .ok (.ofNumber (Number.int a).neg) :=
  rfl

theorem ArithOp.apply_int (op : ArithOp) (a b : Int64) :
    op.apply (.int a) (.int b) =
      match op.compute? (.int a) (.int b) with
      | some result => .ok (.ofNumber result)
      | none => .error (.divisionByZero (toString a.toInt)) := by
  cases op <;> rfl

/-! ## Exact results -/

/-- What the operators give for two integers. -/
structure ExactArithmetic (a b : Int64) : Prop where
  add : ∃ r, ArithOp.add.apply (.int a) (.int b) = .ok (.ofNumber r) ∧
    Represents (a.toInt + b.toInt) r
  sub : ∃ r, ArithOp.sub.apply (.int a) (.int b) = .ok (.ofNumber r) ∧
    Represents (a.toInt - b.toInt) r
  mul : ∃ r, ArithOp.mul.apply (.int a) (.int b) = .ok (.ofNumber r) ∧
    Represents (a.toInt * b.toInt) r
  neg : ∃ r, UnaryOp.neg.apply (.int a) = .ok (.ofNumber r) ∧ Represents (-a.toInt) r
  /-- Powers are exact, but for those of 0, 1 and -1 with a very long exponent. -/
  pow : 0 ≤ b.toInt → b.toInt ≤ exponentLimit ∨ 1 < a.toInt.natAbs →
    ∃ r, ArithOp.pow.apply (.int a) (.int b) = .ok (.ofNumber r) ∧
      Represents (a.toInt ^ b.toInt.toNat) r
  powOfLong : exponentLimit < b.toInt →
    ∃ x, ArithOp.pow.apply (.int a) (.int b) = .ok (.float x)
  divByZero : b = 0 →
    ArithOp.div.apply (.int a) (.int b) = .error (.divisionByZero (toString a.toInt))
  div : b ≠ 0 →
    ∃ r, ArithOp.div.apply (.int a) (.int b) = .ok (.ofNumber r) ∧
      (∀ q, a.toInt = b.toInt * q → Represents q r) ∧
      (¬ b.toInt ∣ a.toInt → ∃ x, r = .float x)
  modByZero : b = 0 →
    ArithOp.mod.apply (.int a) (.int b) = .error (.divisionByZero (toString a.toInt))
  /-- A remainder is zero or has the sign of the dividend. -/
  mod : b ≠ 0 →
    ∃ r : Int64, ArithOp.mod.apply (.int a) (.int b) = .ok (.int r) ∧
      (∃ q, a.toInt = b.toInt * q + r.toInt) ∧ r.toInt.natAbs < b.toInt.natAbs ∧
      (r = 0 ∨ r.toInt.sign = a.toInt.sign)

/-- Arithmetic on integers is exact, but for the powers of 0, 1 and -1 with very long exponents,
which are floating point numbers. -/
theorem arithmetic_exact (a b : Int64) : ExactArithmetic a b where
  add := ⟨_, ArithOp.apply_int .add a b, Number.represents_exactOr _ _⟩
  sub := ⟨_, ArithOp.apply_int .sub a b, Number.represents_exactOr _ _⟩
  mul := ⟨_, ArithOp.apply_int .mul a b, Number.represents_exactOr _ _⟩
  neg := ⟨_, UnaryOp.neg_apply_int a, Number.represents_exactOr _ _⟩
  pow nonneg computed :=
    ⟨_, ArithOp.apply_int .pow a b, Number.represents_pow nonneg computed⟩
  powOfLong long := by
    obtain ⟨x, power⟩ := Number.exists_pow_of_long a long
    refine ⟨x, ?_⟩
    rw [ArithOp.apply_int, ArithOp.compute?, power]
    rfl
  divByZero zero := by
    subst zero
    rfl
  div nonzero := by
    obtain ⟨r, quotient, represents, inexact⟩ := Number.exists_div a nonzero
    refine ⟨r, ?_, represents, inexact⟩
    rw [ArithOp.apply_int, ArithOp.compute?, quotient]
  modByZero zero := by
    subst zero
    rfl
  mod nonzero := by
    obtain ⟨r, remainder, law⟩ := Number.exists_rem a nonzero
    refine ⟨r, ?_, law⟩
    rw [ArithOp.apply_int, ArithOp.compute?, remainder]
    rfl

/-- The least integer divided by -1 is out of range, and leaves no remainder. -/
theorem arithmetic_exact_least :
    (∃ x, ArithOp.div.apply (.int Int64.minValue) (.int (-1)) = .ok (.float x)) ∧
      ArithOp.mod.apply (.int Int64.minValue) (.int (-1)) = .ok (.int 0) := by
  have laws := arithmetic_exact Int64.minValue (-1)
  constructor
  · obtain ⟨r, result, represents, -⟩ := laws.div (by decide)
    have outside := represents 0x8000000000000000 (by decide)
    rcases r with k | x
    · exact absurd (Number.fits_toInt k) (outside ▸ by decide)
    · exact ⟨x, result⟩
  · obtain ⟨r, result, -, smaller, -⟩ := laws.mod (by decide)
    have zero : r.toInt = 0 := by
      have one : (-1 : Int64).toInt.natAbs = 1 := by decide
      omega
    rw [result, Int64.toInt_inj.mp (zero.trans Int64.toInt_zero.symm)]

/-- Beyond the greatest exponent also the powers of 1 are floating point numbers. -/
theorem pow_one_not_exact :
    ¬ ∃ r, ArithOp.pow.apply (.int 1) (.int 0x100000000) = .ok (.ofNumber r) ∧
      Represents ((1 : Int64).toInt ^ (0x100000000 : Int64).toInt.toNat) r := by
  rintro ⟨r, result, represents⟩
  obtain ⟨x, power⟩ : ∃ x, ArithOp.pow.apply (.int 1) (.int 0x100000000) = .ok (.float x) :=
    ⟨_, rfl⟩
  rw [power] at result
  rcases r with k | y
  · cases result
  · have one : (1 : Int64).toInt = 1 := by decide
    refine absurd ?_ represents
    rw [one, one_pow]
    decide

end EditGuard.Rule
