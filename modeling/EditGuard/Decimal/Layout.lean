import EditGuard.Decimal.Shortest

/-!
# Writing floating point numbers

The digits of a number are the shortest ones that read back.  A `Layout`
decides how they are set: which magnitudes are written without an exponent,
whether whole numbers keep a fraction, how the exponent looks, and what stands
for a zero with a sign and for the values that are no numbers.
-/

namespace EditGuard.Decimal

/-- How the digits of a number are set. -/
structure Layout where
  tie : Tie
  /-- Positional form is used when the decimal point stands after `least` and
  not after `greatest`, counted from the first digit. -/
  least : Int
  greatest : Int
  /-- Whole numbers in positional form end in `.0`. -/
  pointAfterWhole : Bool
  /-- A single digit before an exponent is followed by `.0`. -/
  pointBeforeExponent : Bool
  /-- What introduces an exponent that is not negative. -/
  exponentMark : String
  /-- What introduces a negative exponent. -/
  negativeExponentMark : String
  /-- A negative zero is written with its sign. -/
  signedZero : Bool
  notNumber : String
  infinity : String
deriving Repr, DecidableEq, Inhabited

namespace Layout

/-- A number of zeros. -/
def zeros (count : Nat) : List Char :=
  List.replicate count '0'

/-- Digits with the decimal point after the first `point` of them. -/
def positional (l : Layout) (digits : List Char) (point : Int) : List Char :=
  if point ≤ 0 then '0' :: '.' :: (zeros (-point).toNat ++ digits)
  else
    let whole := point.toNat
    if digits.length ≤ whole then
      digits ++ zeros (whole - digits.length) ++
        (if l.pointAfterWhole then ['.', '0'] else [])
    else digits.take whole ++ '.' :: digits.drop whole

/-- Digits with the decimal point after the first and an exponent. -/
def withExponent (l : Layout) (digits : List Char) (exponent : Int) : List Char :=
  let fraction :=
    match digits.drop 1 with
    | [] => if l.pointBeforeExponent then ['.', '0'] else []
    | rest => '.' :: rest
  let mark := if exponent < 0 then l.negativeExponentMark else l.exponentMark
  digits.take 1 ++ fraction ++ mark.toList ++ digitsOf exponent.natAbs

/-- A positive number given by its decimal digits. -/
def magnitude (l : Layout) (s : Scientific) : List Char :=
  let digits := digitsOf s.digits
  let point := (digits.length : Int) + s.exponent
  if l.least < point ∧ point ≤ l.greatest then l.positional digits point
  else l.withExponent digits (point - 1)

/-- Write a number. -/
def write (l : Layout) (x : Float) : String :=
  match Binary64.ofFloat x with
  | .nan => l.notNumber
  | .infinite negative => if negative then "-" ++ l.infinity else l.infinity
  | .finite negative mantissa exponent =>
      if mantissa = 0 then
        (if negative && l.signedZero then "-0" else "0") ++
          (if l.pointAfterWhole then ".0" else "")
      else
        let digits := l.magnitude (shortest l.tie mantissa exponent)
        String.ofList (if negative then '-' :: digits else digits)

end Layout

end EditGuard.Decimal
