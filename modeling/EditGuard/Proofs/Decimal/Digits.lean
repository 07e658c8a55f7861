import EditGuard.Text.Digit

/-!
# Digits of natural numbers

The decimal text of a natural number has digits only, and no superfluous zero in front.  Decimal
digits are read as the number that they denote.
-/

namespace EditGuard

theorem isDigit_toDigits (n : Nat) : ∀ c ∈ Nat.toDigits 10 n, c.isDigit = true :=
  fun _ mem => Nat.isDigit_of_mem_toDigits (by decide) (by decide) mem

theorem toList_toString_nat (n : Nat) : (toString n).toList = Nat.toDigits 10 n := by
  rw [Nat.toString_eq_repr, Nat.toList_repr]

/-- A number has no other characters than digits. -/
theorem notMem_toString_nat {c : Char} (noDigit : c.isDigit = false) (n : Nat) :
    c ∉ (toString n).toList := by
  intro mem
  rw [toList_toString_nat] at mem
  have isDigit := isDigit_toDigits n c mem
  rw [noDigit] at isDigit
  contradiction

/-- No positive number is written with a zero in front. -/
theorem head?_toDigits_ne {n : Nat} (positive : 0 < n) :
    (Nat.toDigits 10 n).head? ≠ some '0' := by
  induction n using Nat.base_induction 10 (by decide) with
  | single d isDigit =>
      rw [Nat.toDigits_of_lt_base isDigit]
      simpa using Nat.ne_of_gt positive
  | digit n d isDigit isPositive ih =>
      rw [← Nat.toDigits_append_toDigits (by decide) isPositive isDigit]
      cases front : Nat.toDigits 10 n with
      | nil => exact absurd front Nat.toDigits_ne_nil
      | cons first more =>
          rw [front] at ih
          exact ih isPositive

namespace Text

theorem digitValue?_of_isDigit {c : Char} (digit : c.isDigit = true) :
    digitValue? 10 c = some (c.toNat - '0'.toNat) := by
  have small : c.toNat - '0'.toNat < 10 := by
    simp only [Char.isDigit, Bool.and_eq_true, decide_eq_true_eq, UInt32.le_iff_toNat_le] at digit
    have upper : c.toNat ≤ 57 := digit.2
    have zero : '0'.toNat = 48 := rfl
    omega
  rw [digitValue?, hexValue?_of_isDigit digit, Option.filter_some, decide_eq_true small]
  rfl

theorem digitValues?_of_isDigit {digits : List Char} (all : ∀ d ∈ digits, d.isDigit = true) :
    digitValues? 10 digits = some (digits.map fun d => d.toNat - '0'.toNat) := by
  induction digits with
  | nil => rfl
  | cons d digits ih =>
      obtain ⟨first, more⟩ := List.forall_mem_cons.mp all
      rw [digitValues?, List.mapM_cons, digitValue?_of_isDigit first, ← digitValues?, ih more]
      rfl

theorem ofDigitValues_eq (digits : List Char) :
    ofDigitValues 10 (digits.map fun d => d.toNat - '0'.toNat) =
      Nat.ofDigitChars 10 digits 0 := by
  rw [ofDigitValues, List.foldl_map]
  rfl

end Text

end EditGuard
