import EditGuard.Number
import Mathlib.Algebra.Order.Ring.Int
import Mathlib.Algebra.Ring.Int.Parity

/-!
# Integer arithmetic

An operation on integers gives the exact integer where that is in range, and a floating point
number where it is not.  A power is exact up to the greatest exponent with which powers are
computed in integers; beyond it all powers are floating point numbers, also those of 0, 1 and -1.
-/

namespace EditGuard.Number

/-! ## Integers in range -/

/-- A number that stands for an integer: the integer itself where it is in range, and a floating
point number where it is not. -/
def Represents (n : Int) : Number → Prop
  | int k => k.toInt = n
  | float _ => ¬ Fits n

theorem fits_toInt (k : Int64) : Fits k.toInt :=
  ⟨k.le_toInt, k.toInt_lt⟩

theorem toInt_ofInt {n : Int} (fits : Fits n) : (Int64.ofInt n).toInt = n := by
  obtain ⟨least, most⟩ := fits
  rw [Int64.toInt_ofInt, Int.bmod_eq_of_le]
  · exact least
  · exact most

theorem represents_exactOr (n : Int) (approximation : Float) :
    Represents n (exactOr n approximation) := by
  rw [exactOr]
  by_cases fits : Fits n
  · rw [if_pos fits]
    exact toInt_ofInt fits
  · rw [if_neg fits]
    exact fits

/-! ## Powers -/

/-- The powers of 0, 1 and -1 depend on whether the exponent is even. -/
theorem pow_of_natAbs_le_one {base : Int} (small : base.natAbs ≤ 1) (exponent : Nat) :
    base ^ exponent =
      if exponent = 0 then 1 else if exponent % 2 = 0 then base * base else base := by
  have cases : base = 0 ∨ base = 1 ∨ base = -1 := by omega
  by_cases none : exponent = 0
  · rw [if_pos none, none, pow_zero]
  · rw [if_neg none]
    rcases cases with rfl | rfl | rfl
    · rw [zero_pow none, zero_mul, ite_self]
    · rw [one_pow, one_mul, ite_self]
    · by_cases even : exponent % 2 = 0
      · rw [if_pos even, (Nat.even_iff.mpr even).neg_one_pow]
        rfl
      · have odd : Odd exponent := Nat.odd_iff.mpr (by omega)
        rw [if_neg even, odd.neg_one_pow]

/-- The powers of all other integers are out of range from the exponent 64 on. -/
theorem not_fits_pow {base : Int} (large : 1 < base.natAbs) {exponent : Nat}
    (long : 64 ≤ exponent) : ¬ Fits (base ^ exponent) := by
  have least : 2 ^ 64 ≤ (base ^ exponent).natAbs := by
    calc
      2 ^ 64 ≤ 2 ^ exponent := Nat.pow_le_pow_right (by decide) long
      _ ≤ base.natAbs ^ exponent := Nat.pow_le_pow_left large exponent
      _ = (base ^ exponent).natAbs := (Int.natAbs_pow base exponent).symm
  rintro ⟨above, below⟩
  omega

/-- A power is computed if and only if it is in range. -/
theorem intPower?_eq (base : Int) (exponent : Nat) :
    intPower? base exponent = if Fits (base ^ exponent) then some (base ^ exponent) else none := by
  rw [intPower?]
  by_cases small : base.natAbs ≤ 1
  · rw [if_pos small, ← pow_of_natAbs_le_one small exponent]
  · rw [if_neg small]
    change (if Fits (base ^ min exponent 64) then some (base ^ min exponent 64) else none) = _
    rcases Nat.le_total exponent 64 with short | long
    · rw [Nat.min_eq_left short]
    · have large : 1 < base.natAbs := by omega
      rw [Nat.min_eq_right long, if_neg (not_fits_pow large long),
        if_neg (not_fits_pow large (Nat.le_refl 64))]

theorem represents_pow {base exponent : Int64} (nonneg : 0 ≤ exponent.toInt)
    (computed : exponent.toInt ≤ exponentLimit ∨ 1 < base.toInt.natAbs) :
    Represents (base.toInt ^ exponent.toInt.toNat) (pow (int base) (int exponent)) := by
  rw [pow]
  by_cases short : exponent.toInt ≤ exponentLimit
  · rw [if_pos ⟨nonneg, short⟩, intPower?_eq]
    by_cases fits : Fits (base.toInt ^ exponent.toInt.toNat)
    · rw [if_pos fits]
      exact toInt_ofInt fits
    · rw [if_neg fits]
      exact fits
  · rw [if_neg fun both => short both.2]
    refine not_fits_pow (computed.resolve_left short) ?_
    rw [exponentLimit] at short
    omega

/-- Beyond the greatest exponent all powers are floating point numbers. -/
theorem exists_pow_of_long (base : Int64) {exponent : Int64}
    (long : exponentLimit < exponent.toInt) :
    ∃ x, pow (int base) (int exponent) = float x := by
  rw [pow, if_neg fun both => Int.not_lt.mpr both.2 long]
  exact ⟨_, rfl⟩

/-! ## Quotients and remainders -/

theorem toInt_ne_zero {b : Int64} (nonzero : b ≠ 0) : b.toInt ≠ 0 :=
  fun same => nonzero (Int64.toInt_inj.mp same)

/-- A quotient is exact where the divisor divides the dividend, and a floating point number
where it does not. -/
theorem exists_div (a : Int64) {b : Int64} (nonzero : b ≠ 0) :
    ∃ r, div (int a) (int b) = some r ∧ (∀ q, a.toInt = b.toInt * q → Represents q r) ∧
      (¬ b.toInt ∣ a.toInt → ∃ x, r = float x) := by
  have notZero : ¬ (int b).isZero = true := by
    rw [isZero, beq_iff_eq]
    exact nonzero
  rw [div, if_neg notZero]
  by_cases divides : a.toInt.tmod b.toInt = 0
  · refine ⟨_, if_pos divides, ?_, ?_⟩
    · intro q quotient
      have same : a.toInt.tdiv b.toInt = q :=
        Int.tdiv_eq_of_eq_mul_right (toInt_ne_zero nonzero) quotient
      rw [same]
      exact represents_exactOr q _
    · intro not
      exact absurd (Int.dvd_iff_tmod_eq_zero.mpr divides) not
  · refine ⟨_, if_neg divides, ?_, fun _ => ⟨_, rfl⟩⟩
    intro q quotient
    exact absurd (Int.dvd_iff_tmod_eq_zero.mp ⟨q, quotient⟩) divides

/-- A remainder is smaller than the divisor, and it is zero or has the sign of the dividend. -/
theorem exists_rem (a : Int64) {b : Int64} (nonzero : b ≠ 0) :
    ∃ r : Int64, rem (int a) (int b) = some (int r) ∧
      (∃ q, a.toInt = b.toInt * q + r.toInt) ∧ r.toInt.natAbs < b.toInt.natAbs ∧
      (r = 0 ∨ r.toInt.sign = a.toInt.sign) := by
  have smaller : (a.toInt.tmod b.toInt).natAbs < b.toInt.natAbs := by
    rw [Int.natAbs_tmod]
    exact Nat.mod_lt _ (Int.natAbs_pos.mpr (toInt_ne_zero nonzero))
  have fits : Fits (a.toInt.tmod b.toInt) := by
    obtain ⟨least, most⟩ := fits_toInt b
    constructor <;> omega
  refine ⟨Int64.ofInt (a.toInt.tmod b.toInt), if_neg nonzero, ?_⟩
  rw [toInt_ofInt fits]
  refine ⟨⟨_, (Int.mul_tdiv_add_tmod _ _).symm⟩, smaller, ?_⟩
  rw [Int.sign_tmod, ← Int64.toInt_inj, toInt_ofInt fits]
  by_cases divides : b.toInt ∣ a.toInt
  · exact .inl (Int.dvd_iff_tmod_eq_zero.mp divides)
  · exact .inr (if_neg divides)

end EditGuard.Number
