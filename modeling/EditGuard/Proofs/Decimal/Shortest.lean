import EditGuard.Decimal.Shortest
import EditGuard.Proofs.Decimal.Binary64
import Mathlib.Algebra.Order.Field.Basic
import Mathlib.Algebra.Order.Field.Rat
import Mathlib.Data.Rat.Cast.Defs
import Mathlib.Tactic.NormNum
import Mathlib.Tactic.Ring

/-!
# Shortest decimals tell numbers apart

The search for a shortest decimal always finds one, and what it finds lies in the interval of
the reals that round to the number.  The intervals of different numbers are disjoint, so that
different numbers have different shortest decimals.
-/

namespace EditGuard.Decimal

/-- The number that digits and an exponent stand for. -/
def Scientific.value (s : Scientific) : ℚ :=
  s.digits * 10 ^ s.exponent

namespace Interval

/-! ## Decimals in an interval -/

/-- A number lies in an interval. -/
structure Contains (i : Interval) (x : ℚ) : Prop where
  lower_le : i.lower * 2 ^ i.scale ≤ x
  le_upper : x ≤ i.upper * 2 ^ i.scale
  lower_lt : i.closed = false → i.lower * 2 ^ i.scale < x
  lt_upper : i.closed = false → x < i.upper * 2 ^ i.scale

theorem den_pos (scale k : Int) : 0 < (ratio scale k).2 := by
  simp only [ratio, Nat.shiftLeft_eq]
  exact Nat.mul_pos (Nat.pow_pos (by decide)) (Nat.pow_pos (by decide))

theorem zpow_mul_pow {b : ℚ} (notZero : b ≠ 0) (n : Int) :
    b ^ n * b ^ (-n).toNat = b ^ n.toNat := by
  rw [← zpow_natCast, ← zpow_natCast, ← zpow_add₀ notZero]
  congr 1
  omega

/-- The parts of `ratio` measure `2 ^ scale` and `10 ^ k` by one unit. -/
theorem exists_unit (scale k : Int) : ∃ unit : ℚ, 0 < unit ∧
    2 ^ scale = (ratio scale k).1 * unit ∧ 10 ^ k = (ratio scale k).2 * unit := by
  have den : (0 : ℚ) < (ratio scale k).2 := Nat.cast_pos.mpr (den_pos scale k)
  have crosswise : 2 ^ scale * ((ratio scale k).2 : ℚ) = (ratio scale k).1 * 10 ^ k := by
    have two := zpow_mul_pow (b := 2) (by norm_num) scale
    have ten := zpow_mul_pow (b := 10) (by norm_num) k
    simp only [ratio, Nat.shiftLeft_eq, Nat.pow_eq]
    push_cast
    rw [← two, ← ten]
    ring
  refine ⟨10 ^ k / (ratio scale k).2, div_pos (zpow_pos (by norm_num) k) den, ?_, ?_⟩
  · rw [← mul_div_assoc, eq_div_iff den.ne', crosswise]
  · rw [mul_div_cancel₀ _ den.ne']

/-- What `holds` decides. -/
theorem contains_of_holds {i : Interval} {k : Int} {c : Nat}
    (holds : i.holds (ratio i.scale k).1 (ratio i.scale k).2 c = true) :
    i.Contains (Scientific.value ⟨c, k⟩) := by
  obtain ⟨unit, positive, two, ten⟩ := exists_unit i.scale k
  have scaled_le {a b : Nat} (le : a ≤ b) : (a : ℚ) * unit ≤ b * unit :=
    mul_le_mul_of_nonneg_right (Nat.cast_le.mpr le) positive.le
  have scaled_lt {a b : Nat} (lt : a < b) : (a : ℚ) * unit < b * unit :=
    mul_lt_mul_of_pos_right (Nat.cast_lt.mpr lt) positive
  have value : Scientific.value ⟨c, k⟩ = ((c * (ratio i.scale k).2 : Nat) : ℚ) * unit := by
    rw [Scientific.value, ten, Nat.cast_mul, mul_assoc]
  have bound (a : Nat) : (a : ℚ) * 2 ^ i.scale = ((a * (ratio i.scale k).1 : Nat) : ℚ) * unit := by
    rw [two, Nat.cast_mul, mul_assoc]
  unfold Interval.holds at holds
  split at holds
  · next closed =>
      simp only [Bool.and_eq_true, decide_eq_true_eq] at holds
      constructor
      · rw [value, bound]
        exact scaled_le holds.1
      · rw [value, bound]
        exact scaled_le holds.2
      · intro isOpen
        rw [closed] at isOpen
        cases isOpen
      · intro isOpen
        rw [closed] at isOpen
        cases isOpen
  · simp only [Bool.and_eq_true, decide_eq_true_eq] at holds
    have lower : i.lower * 2 ^ i.scale < Scientific.value ⟨c, k⟩ := by
      rw [value, bound]
      exact scaled_lt holds.1
    have upper : Scientific.value ⟨c, k⟩ < i.upper * 2 ^ i.scale := by
      rw [value, bound]
      exact scaled_lt holds.2
    exact ⟨lower.le, upper.le, fun _ => lower, fun _ => upper⟩

theorem holds_of_nearestAt {i : Interval} {tie : Tie} {k : Int} {s : Scientific}
    (found : i.nearestAt tie k = some s) :
    s.exponent = k ∧ i.holds (ratio i.scale k).1 (ratio i.scale k).2 s.digits = true := by
  simp only [nearestAt] at found
  split at found
  · next below =>
      cases found
      exact ⟨rfl, (Bool.and_eq_true_iff.mp below).1⟩
  · split at found
    · next above =>
        cases found
        exact ⟨rfl, above⟩
    · cases found

/-- What is found lies in the interval. -/
theorem contains_of_nearestAt {i : Interval} {tie : Tie} {k : Int} {s : Scientific}
    (found : i.nearestAt tie k = some s) : i.Contains s.value := by
  obtain ⟨rfl, holds⟩ := holds_of_nearestAt found
  exact contains_of_holds holds

theorem isSome_nearestAt {i : Interval} (tie : Tie) {k : Int}
    (holds : i.holds (ratio i.scale k).1 (ratio i.scale k).2
      (i.value * (ratio i.scale k).1 / (ratio i.scale k).2) = true) :
    (i.nearestAt tie k).isSome = true := by
  simp only [nearestAt, holds, Bool.true_and]
  split
  · rfl
  · next notBelow =>
      rw [if_pos (by simp_all)]
      rfl

/-- Decimals that are no farther apart than the binary numbers do not miss an interval. -/
theorem holds_below {i : Interval} {num den : Nat} (fine : den ≤ num) (positive : 0 < den)
    (lower : i.lower < i.value) (upper : i.value < i.upper) :
    i.holds num den (i.value * num / den) = true := by
  have atMost : i.value * num / den * den ≤ i.value * num := Nat.div_mul_le_self _ _
  have rest := Nat.lt_div_mul_add positive (a := i.value * num)
  have below : (i.lower + 1) * num ≤ i.value * num := Nat.mul_le_mul_right num lower
  have above : i.value * num < i.upper * num := Nat.mul_lt_mul_of_pos_right upper (by omega)
  rw [Nat.add_mul, Nat.one_mul] at below
  have left : i.lower * num < i.value * num / den * den := by omega
  have right : i.value * num / den * den < i.upper * num := by omega
  unfold holds
  split
  · simp only [Bool.and_eq_true, decide_eq_true_eq]
    exact ⟨left.le, right.le⟩
  · simp only [Bool.and_eq_true, decide_eq_true_eq]
    exact ⟨left, right⟩

end Interval

/-! ## The search for the shortest decimal -/

theorem ten_pow_le_two_pow {k n : Nat} (le : 10 * k ≤ 3 * n) : 10 ^ k ≤ 2 ^ n := by
  refine (Nat.pow_le_pow_iff_left (n := 3) (by decide)).mp ?_
  calc (10 ^ k) ^ 3 = (10 ^ 3) ^ k := Nat.pow_right_comm 10 k 3
    _ ≤ (2 ^ 10) ^ k := Nat.pow_le_pow_left (by decide) k
    _ = 2 ^ (10 * k) := (Nat.pow_mul 2 10 k).symm
    _ ≤ 2 ^ (3 * n) := Nat.pow_le_pow_right (by decide) le
    _ = (2 ^ n) ^ 3 := by rw [Nat.mul_comm, Nat.pow_mul]

theorem two_pow_le_ten_pow {n k : Nat} (le : 10 * n ≤ 33 * k) : 2 ^ n ≤ 10 ^ k := by
  refine (Nat.pow_le_pow_iff_left (n := 33) (by decide)).mp ?_
  calc (2 ^ n) ^ 33 = (2 ^ 33) ^ n := Nat.pow_right_comm 2 n 33
    _ ≤ (10 ^ 10) ^ n := Nat.pow_le_pow_left (by decide) n
    _ = 10 ^ (10 * n) := (Nat.pow_mul 10 10 n).symm
    _ ≤ 10 ^ (33 * k) := Nat.pow_le_pow_right (by decide) le
    _ = (10 ^ k) ^ 33 := by rw [Nat.mul_comm, Nat.pow_mul]

/-- The last exponent that is tried is fine enough. -/
theorem den_le_num {mantissa : Nat} {exponent : Int} (canonical : Canonical mantissa exponent) :
    (Interval.ratio (exponent - 2) (exponentBound mantissa exponent - 23)).2 ≤
      (Interval.ratio (exponent - 2) (exponentBound mantissa exponent - 23)).1 := by
  have bits : mantissa.log2 < 53 := by
    have := canonical.mantissa_lt
    by_cases zero : mantissa = 0
    · subst zero
      decide
    · exact (Nat.log2_lt zero).mpr this
  have least := canonical.least_le
  have greatest := canonical.le_greatest
  obtain ⟨k, bound⟩ : ∃ k, k = exponentBound mantissa exponent - 23 := ⟨_, rfl⟩
  rw [← bound]
  unfold exponentBound at bound
  simp only [Interval.ratio, Nat.shiftLeft_eq, Nat.pow_eq]
  -- `10 ^ 3 ≤ 2 ^ 10` and `2 ^ 33 ≤ 10 ^ 10` are as sharp as these exponents need
  rcases Int.le_total 0 k with large | small
  · have ten : (-k).toNat = 0 := by omega
    have two : (-(exponent - 2)).toNat = 0 := by omega
    rw [ten, two, Nat.pow_zero, Nat.one_mul, Nat.mul_one]
    exact ten_pow_le_two_pow (by omega)
  · have ten : k.toNat = 0 := by omega
    rw [ten, Nat.pow_zero, Nat.one_mul]
    have fine : 2 ^ (-(exponent - 2)).toNat ≤ 10 ^ (-k).toNat := two_pow_le_ten_pow (by omega)
    exact fine.trans (Nat.le_mul_of_pos_right _ (Nat.pow_pos (by decide)))

theorem lower_lt_value {mantissa : Nat} (positive : 0 < mantissa) (exponent : Int) :
    (Interval.around mantissa exponent).lower < (Interval.around mantissa exponent).value := by
  simp only [Interval.around]
  split
  · omega
  · omega

theorem value_lt_upper (mantissa : Nat) (exponent : Int) :
    (Interval.around mantissa exponent).value < (Interval.around mantissa exponent).upper := by
  simp only [Interval.around]
  omega

/-- The decimal that is found rounds to the number. -/
theorem contains_shortest {mantissa : Nat} {exponent : Int} (tie : Tie)
    (canonical : Canonical mantissa exponent) (positive : 0 < mantissa) :
    (Interval.around mantissa exponent).Contains (shortest tie mantissa exponent).value := by
  have last : ((Interval.around mantissa exponent).nearestAt tie
      (exponentBound mantissa exponent - 23)).isSome = true :=
    Interval.isSome_nearestAt tie (Interval.holds_below (den_le_num canonical)
      (Interval.den_pos _ _) (lower_lt_value positive exponent) (value_lt_upper mantissa exponent))
  obtain ⟨s, found⟩ : ∃ s, (List.range 24).findSome? (fun step : Nat =>
      (Interval.around mantissa exponent).nearestAt tie
        (exponentBound mantissa exponent - (step : Int))) = some s := by
    rw [← Option.isSome_iff_exists, List.findSome?_isSome_iff]
    exact ⟨23, by decide, last⟩
  obtain ⟨step, -, atStep⟩ := List.exists_of_findSome?_eq_some found
  rw [shortest]
  simp only [found, Option.getD_some]
  exact Interval.contains_of_nearestAt atStep

theorem shortest_value_pos {mantissa : Nat} {exponent : Int} (tie : Tie)
    (canonical : Canonical mantissa exponent) (positive : 0 < mantissa) :
    0 < (shortest tie mantissa exponent).value := by
  have lower : 0 < (Interval.around mantissa exponent).lower := by
    simp only [Interval.around]
    split
    · omega
    · omega
  have scale : (0 : ℚ) < 2 ^ (Interval.around mantissa exponent).scale := zpow_pos (by norm_num) _
  exact (mul_pos (Nat.cast_pos.mpr lower) scale).trans_le
    (contains_shortest tie canonical positive).lower_le

/-! ## Intervals of different numbers -/

section Separation

variable {m n : Nat} {d e : Int} {x : ℚ}

/-- The ends of two intervals with a number in common, in quarters of the last place of one. -/
theorem lower_le_upper (le : d ≤ e) (inLeft : (Interval.around m d).Contains x)
    (inRight : (Interval.around n e).Contains x) :
    (Interval.around n e).lower * 2 ^ (e - d).toNat ≤ 4 * m + 2 ∧
      (m % 2 = 1 ∨ n % 2 = 1 → (Interval.around n e).lower * 2 ^ (e - d).toNat < 4 * m + 2) := by
  have unit : (0 : ℚ) < 2 ^ (d - 2) := zpow_pos (by norm_num) _
  have coarser : (2 : ℚ) ^ (e - 2) = 2 ^ (e - d).toNat * 2 ^ (d - 2) := by
    rw [← zpow_natCast, ← zpow_add₀ (by norm_num)]
    congr 1
    omega
  have lower : ((Interval.around n e).lower : ℚ) * 2 ^ (e - 2) =
      (((Interval.around n e).lower * 2 ^ (e - d).toNat : Nat) : ℚ) * 2 ^ (d - 2) := by
    rw [coarser, Nat.cast_mul, Nat.cast_pow, Nat.cast_ofNat, mul_assoc]
  have lower_le : ((Interval.around n e).lower : ℚ) * 2 ^ (e - 2) ≤ x := inRight.lower_le
  have le_upper : x ≤ ((4 * m + 2 : Nat) : ℚ) * 2 ^ (d - 2) := inLeft.le_upper
  rw [lower] at lower_le
  refine ⟨Nat.cast_le.mp (le_of_mul_le_mul_right (lower_le.trans le_upper) unit), ?_⟩
  rintro (odd | odd)
  · have lt_upper : x < ((4 * m + 2 : Nat) : ℚ) * 2 ^ (d - 2) :=
      inLeft.lt_upper (by simp [Interval.around, odd])
    exact Nat.cast_lt.mp (lt_of_mul_lt_mul_right (lower_le.trans_lt lt_upper) unit.le)
  · have lower_lt : ((Interval.around n e).lower : ℚ) * 2 ^ (e - 2) < x :=
      inRight.lower_lt (by simp [Interval.around, odd])
    rw [lower] at lower_lt
    exact Nat.cast_lt.mp (lt_of_mul_lt_mul_right (lower_lt.trans_le le_upper) unit.le)

/-- No number lies in the intervals of two numbers. -/
theorem not_contains_of_lt (left : Canonical m d) (right : Canonical n e)
    (less : d < e ∨ d = e ∧ m < n) (inLeft : (Interval.around m d).Contains x)
    (inRight : (Interval.around n e).Contains x) : False := by
  have ends := lower_le_upper (by omega) inLeft inRight
  simp only [Interval.around] at ends
  rcases less with coarser | ⟨rfl, smaller⟩
  · -- the upper end of the finer interval is at most the lower end of the other, and only
    -- an odd mantissa reaches it
    have scale : 2 ^ 1 ≤ 2 ^ (e - d).toNat := Nat.pow_le_pow_right (by decide) (by omega)
    have mantissa := left.mantissa_lt
    have normal := right.normal (by have := left.least_le; omega)
    have product : (4 * n - if n = 0x10000000000000 ∧ -1074 < e then 1 else 2) * 2 ≤
        (4 * n - if n = 0x10000000000000 ∧ -1074 < e then 1 else 2) * 2 ^ (e - d).toNat :=
      Nat.mul_le_mul_left _ scale
    have lower : 0x3fffffffffffff ≤
        4 * n - if n = 0x10000000000000 ∧ -1074 < e then 1 else 2 := by
      split
      · omega
      · next notLeast =>
          have := left.least_le
          omega
    omega
  · rw [Int.sub_self, Int.toNat_zero, Nat.pow_zero, Nat.mul_one] at ends
    split at ends
    · omega
    · omega

/-- The intervals of two numbers are disjoint. -/
theorem eq_of_contains (left : Canonical m d) (right : Canonical n e)
    (inLeft : (Interval.around m d).Contains x) (inRight : (Interval.around n e).Contains x) :
    m = n ∧ d = e := by
  rcases lt_trichotomy d e with lt | rfl | gt
  · exact (not_contains_of_lt left right (.inl lt) inLeft inRight).elim
  · rcases lt_trichotomy m n with lt | rfl | gt
    · exact (not_contains_of_lt left right (.inr ⟨rfl, lt⟩) inLeft inRight).elim
    · exact ⟨rfl, rfl⟩
    · exact (not_contains_of_lt right left (.inr ⟨rfl, gt⟩) inRight inLeft).elim
  · exact (not_contains_of_lt right left (.inl gt) inRight inLeft).elim

end Separation

/-- Different numbers have different shortest decimals. -/
theorem shortest_value_inj {m n : Nat} {d e : Int} {tie : Tie} (left : Canonical m d)
    (right : Canonical n e) (leftPositive : 0 < m) (rightPositive : 0 < n)
    (same : (shortest tie m d).value = (shortest tie n e).value) : m = n ∧ d = e := by
  have inLeft := contains_shortest tie left leftPositive
  have inRight := contains_shortest tie right rightPositive
  rw [← same] at inRight
  exact eq_of_contains left right inLeft inRight

end EditGuard.Decimal
