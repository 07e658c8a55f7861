import EditGuard.Filter
import EditGuard.Proofs.Decimal.Digits

/-!
# Texts of identities

The text of an identity of a filter tells the identity.  It is a number, after a word if the
filter is global.
-/

namespace EditGuard

theorem toString_nat_inj {m n : Nat} (same : toString m = toString n) : m = n := by
  have digits : Nat.toDigits 10 m = Nat.toDigits 10 n := by
    rw [← Nat.toList_repr, ← Nat.toList_repr, ← Nat.toString_eq_repr, same, Nat.toString_eq_repr]
  have read := Nat.ofDigitChars_ten_toDigits (n := m)
  rw [digits, Nat.ofDigitChars_ten_toDigits] at read
  exact read.symm

/-- A number does not begin with a letter. -/
theorem toString_nat_ne_global (m n : Nat) : toString m ≠ s!"global-{n}" := by
  intro same
  have first : 'g' ∈ (toString m).toList := by
    rw [same, String.toList_append]
    exact List.mem_append_left _ (by decide)
  exact notMem_toString_nat (by decide) m first

/-- Different filters have different texts. -/
theorem FilterId.text_inj {a b : FilterId} (same : a.text = b.text) : a = b := by
  rcases a with ⟨aGlobal, m⟩
  rcases b with ⟨bGlobal, n⟩
  cases aGlobal with
  | false =>
      cases bGlobal with
      | false =>
          have numbers : toString m = toString n := same
          rw [toString_nat_inj numbers]
      | true => exact absurd same (toString_nat_ne_global m n)
  | true =>
      cases bGlobal with
      | false => exact absurd same.symm (toString_nat_ne_global n m)
      | true =>
          have numbers : s!"global-{m}" = s!"global-{n}" := same
          rw [toString_nat_inj ((String.append_right_inj _).mp numbers)]

/-- No identity has a zero character in its text. -/
theorem FilterId.zero_notMem_text (id : FilterId) : '\x00' ∉ id.text.toList := by
  rcases id with ⟨isGlobal, n⟩
  have digits : '\x00' ∉ (toString n).toList := notMem_toString_nat (by decide) n
  cases isGlobal with
  | false => exact digits
  | true =>
      have text : FilterId.text ⟨true, n⟩ = "global-" ++ toString n := rfl
      rw [text, String.toList_append, List.mem_append, not_or]
      exact ⟨by decide, digits⟩

end EditGuard
