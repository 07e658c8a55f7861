import EditGuard.Decimal.Binary64

/-!
# The shortest decimal that reads back

A positive `m · 2 ^ e` stands for all reals that round to it.  Among the
decimals `c · 10 ^ k` in that interval the ones with the largest `k` have the
fewest digits, and of those the nearest to the number is chosen.  All
comparisons are made in natural numbers, in quarters of the last binary place.
-/

namespace EditGuard.Decimal

/-- The number `digits · 10 ^ exponent`. -/
structure Scientific where
  digits : Nat
  exponent : Int
deriving Repr, DecidableEq, Inhabited

/-- What is chosen of two decimals at the same distance. -/
inductive Tie where
  | up
  | even
deriving Repr, DecidableEq, Inhabited

/-- The reals that round to a positive binary number, as a scale and three
multiples of it: the lower end, the number, and the upper end. -/
structure Interval where
  lower : Nat
  value : Nat
  upper : Nat
  /-- Whether the ends round to the number too. -/
  closed : Bool
  /-- The multiples count units of `2 ^ scale`. -/
  scale : Int
deriving Repr, DecidableEq, Inhabited

namespace Interval

/-- The interval of `m · 2 ^ e`.  Below a power of two the neighbour is twice as
near, except at the least exponent. -/
def around (mantissa : Nat) (exponent : Int) : Interval :=
  { lower := 4 * mantissa -
      (if mantissa = 0x10000000000000 ∧ -1074 < exponent then 1 else 2)
    value := 4 * mantissa
    upper := 4 * mantissa + 2
    closed := mantissa % 2 == 0
    scale := exponent - 2 }

/-- The part of `2 ^ scale / 10 ^ k` that multiplies, and the part that divides. -/
def ratio (scale k : Int) : Nat × Nat :=
  (Nat.pow 10 (-k).toNat <<< scale.toNat, Nat.pow 10 k.toNat <<< (-scale).toNat)

/-- Whether `c · 10 ^ k` rounds to the number, given `ratio scale k`. -/
def holds (i : Interval) (num den c : Nat) : Bool :=
  if i.closed then i.lower * num ≤ c * den && c * den ≤ i.upper * num
  else i.lower * num < c * den && c * den < i.upper * num

/-- The member of the interval with exponent `k` that is nearest to the number. -/
def nearestAt (i : Interval) (tie : Tie) (k : Int) : Option Scientific :=
  let (num, den) := ratio i.scale k
  let below := i.value * num / den
  let rest := i.value * num % den
  let preferAbove :=
    den < 2 * rest || (2 * rest == den && (tie == .up || below % 2 == 1))
  let belowHolds := i.holds num den below
  let aboveHolds := i.holds num den (below + 1)
  if belowHolds && !(aboveHolds && preferAbove) then some ⟨below, k⟩
  else if aboveHolds then some ⟨below + 1, k⟩
  else none

end Interval

/-- An exponent above that of every decimal in the interval of `m · 2 ^ e`. -/
def exponentBound (mantissa : Nat) (exponent : Int) : Int :=
  ((mantissa.log2 : Int) + 1 + exponent) * 30103 / 100000 + 1

/-- The shortest decimal that rounds to `m · 2 ^ e`, for positive `m`.  Seventeen
digits always suffice, so that only some twenty exponents are tried. -/
def shortest (tie : Tie) (mantissa : Nat) (exponent : Int) : Scientific :=
  let interval := Interval.around mantissa exponent
  let bound := exponentBound mantissa exponent
  ((List.range 24).findSome? fun step : Nat =>
    interval.nearestAt tie (bound - (step : Int))).getD ⟨mantissa, exponent⟩

/-- Decimal digits of a natural number, most significant first. -/
def digitsOf (n : Nat) : List Char :=
  Nat.toDigits 10 n

example : shortest .up 1 (-1074) = ⟨5, -324⟩ := by decide +kernel
example : shortest .up 0x10000000000000 (-51) = ⟨2, 0⟩ := by decide +kernel
example : shortest .up 0x13333333333333 (-54) = ⟨3, -1⟩ := by decide +kernel
example : shortest .up 0x13333333333334 (-54) = ⟨30000000000000004, -17⟩ := by decide +kernel

end EditGuard.Decimal
