/-!
# Binary floating point numbers as fractions

A finite `Float` is `± m · 2 ^ e` with natural `m`.  The decoder below reads
that form off the bit pattern, so that truncation and decimal printing can be
done in exact integer arithmetic.
-/

namespace EditGuard.Decimal

/-- The mathematical content of a `Float`. -/
inductive Binary64 where
  | nan
  | infinite (negative : Bool)
  /-- The number `± mantissa · 2 ^ exponent`. -/
  | finite (negative : Bool) (mantissa : Nat) (exponent : Int)
deriving Repr, DecidableEq, Inhabited

namespace Binary64

/-- Read a number off its bit pattern: one bit of sign, eleven of exponent,
fifty-two of fraction. -/
def ofFloat (x : Float) : Binary64 :=
  let bits : Nat := x.toBits.toNat
  let negative := decide (0x8000000000000000 ≤ bits)
  let biased : Nat := bits >>> 52 % 0x800
  let fraction : Nat := bits % 0x10000000000000
  if biased = 2047 then
    if fraction = 0 then infinite negative else nan
  else if biased = 0 then finite negative fraction (-1074)
  else finite negative (0x10000000000000 + fraction) ((biased : Int) - 1075)

/-- The magnitude `m · 2 ^ e` without its fraction. -/
def wholePart (mantissa : Nat) (exponent : Int) : Nat :=
  if 0 ≤ exponent then mantissa <<< exponent.toNat
  else mantissa >>> (-exponent).toNat

/-- Whether `m · 2 ^ e` is a whole number. -/
def isWhole (mantissa : Nat) (exponent : Int) : Bool :=
  0 ≤ exponent || mantissa % (1 <<< (-exponent).toNat) == 0

end Binary64

/-- Put an integer between the least and the greatest 64-bit one. -/
def clampInt64 (n : Int) : Int64 :=
  if n ≤ Int64.minValue.toInt then Int64.minValue
  else if Int64.maxValue.toInt ≤ n then Int64.maxValue
  else Int64.ofInt n

/-- Drop the fraction of a number.  What is out of range goes to the nearer end
of the range, and what is no number to zero. -/
def truncate (x : Float) : Int64 :=
  match Binary64.ofFloat x with
  | .nan => 0
  | .infinite negative => if negative then Int64.minValue else Int64.maxValue
  | .finite negative mantissa exponent =>
      let whole := Binary64.wholePart mantissa exponent
      clampInt64 (if negative then -(whole : Int) else whole)

example : truncate 2.9 = 2 ∧ truncate (-2.9) = -2 ∧ truncate 1e300 = Int64.maxValue := by
  decide +kernel

end EditGuard.Decimal
