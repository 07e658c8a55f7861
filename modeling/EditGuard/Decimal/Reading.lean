/-!
# Reading decimal fractions

`ofDecimal m e` is the floating point number nearest to `m · 10 ^ e`.  The
exponents that decide the answer without any arithmetic, because the number is
beyond the largest or below the least one, are sorted out first, so that the
power of ten that is computed is never much larger than the answer needs.
-/

namespace EditGuard.Decimal

/-- Positive infinity. -/
def infinity : Float :=
  Float.ofBits 0x7FF0000000000000

/-- The floating point number nearest to `mantissa · 10 ^ exponent`.  As
`8 < 10`, the number is at least `2 ^ (log2 m + 3 e)` for a positive exponent,
and less than twice that for a negative one. -/
def ofDecimal (mantissa : Nat) (exponent : Int) : Float :=
  let size : Int := mantissa.log2 + 3 * exponent
  if mantissa = 0 then 0
  else if 0 < exponent ∧ 1024 ≤ size then infinity
  else if exponent < 0 ∧ size < -1076 then 0
  else Float.ofScientific mantissa (exponent < 0) exponent.natAbs

/-- The number that a row of decimal digits denotes. -/
def naturalOf (digits : List Char) : Nat :=
  digits.foldl (fun n c => 10 * n + (c.toNat - '0'.toNat)) 0

end EditGuard.Decimal
