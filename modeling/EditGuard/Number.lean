import EditGuard.Decimal.Layout
import EditGuard.Decimal.Reading

/-!
# Numbers of the rule language

A number is a 64-bit integer or a binary floating point number.  An integer
operation gives the exact integer when that is in range, and is carried out in
floating point otherwise.
-/

namespace EditGuard

/-- A number of the rule language. -/
inductive Number where
  | int (n : Int64)
  | float (x : Float)

namespace Number

/-- Whether an integer has a 64-bit form. -/
def Fits (n : Int) : Prop :=
  -0x8000000000000000 ≤ n ∧ n < 0x8000000000000000

instance (n : Int) : Decidable (Fits n) :=
  inferInstanceAs (Decidable (_ ∧ _))

/-- An exact integer result, or the floating point one where it is out of range. -/
def exactOr (n : Int) (approximation : Float) : Number :=
  if Fits n then int (Int64.ofInt n) else float approximation

/-- The floating point number nearest to an integer. -/
def floatOfInt (n : Int64) : Float :=
  Float.ofInt n.toInt

def toFloat : Number → Float
  | int n => floatOfInt n
  | float x => x

/-- The number without its fraction, as near as 64 bits allow. -/
def toInt : Number → Int64
  | int n => n
  | float x => Decimal.truncate x

def isZero : Number → Bool
  | int n => n == 0
  | float x => x == 0

def add : Number → Number → Number
  | int a, int b => exactOr (a.toInt + b.toInt) (floatOfInt a + floatOfInt b)
  | a, b => float (a.toFloat + b.toFloat)

def sub : Number → Number → Number
  | int a, int b => exactOr (a.toInt - b.toInt) (floatOfInt a - floatOfInt b)
  | a, b => float (a.toFloat - b.toFloat)

def mul : Number → Number → Number
  | int a, int b => exactOr (a.toInt * b.toInt) (floatOfInt a * floatOfInt b)
  | a, b => float (a.toFloat * b.toFloat)

def neg : Number → Number
  | int a => exactOr (-a.toInt) (-floatOfInt a)
  | float x => float (-x)

/-- The quotient, unless the divisor is zero.  An integer that divides another
one gives an integer. -/
def div (a b : Number) : Option Number :=
  if b.isZero then none
  else
    match a, b with
    | int m, int n =>
        if m.toInt.tmod n.toInt = 0 then
          some (exactOr (m.toInt.tdiv n.toInt) (floatOfInt m / floatOfInt n))
        else some (float (floatOfInt m / floatOfInt n))
    | _, _ => some (float (a.toFloat / b.toFloat))

/-- The remainder of the numbers without their fractions, with the sign of the
dividend; none where the divisor is then zero. -/
def rem (a b : Number) : Option Number :=
  if b.toInt = 0 then none
  else some (int (Int64.ofInt (a.toInt.toInt.tmod b.toInt.toInt)))

/-- A power of an integer, unless it is out of range.  From the exponent 64 on
only the powers of 0, 1 and -1 are in range, and those depend on whether the
exponent is even. -/
def intPower? (base : Int) (exponent : Nat) : Option Int :=
  let power :=
    if base.natAbs ≤ 1 then
      if exponent = 0 then 1 else if exponent % 2 = 0 then base * base else base
    else Int.pow base (min exponent 64)
  if Fits power then some power else none

/-- The greatest exponent with which a power is computed in integers. -/
def exponentLimit : Int :=
  0xffffffff

def pow : Number → Number → Number
  | int base, int exponent =>
      if 0 ≤ exponent.toInt ∧ exponent.toInt ≤ exponentLimit then
        match intPower? base.toInt exponent.toInt.toNat with
        | some power => int (Int64.ofInt power)
        | none => float ((floatOfInt base).pow (floatOfInt exponent))
      else float ((floatOfInt base).pow (floatOfInt exponent))
  | a, b => float (a.toFloat.pow b.toFloat)

/-- The order of two floating point numbers; a NaN has none to any. -/
def compareFloat (x y : Float) : Option Ordering :=
  if x < y then some .lt
  else if x == y then some .eq
  else if y < x then some .gt
  else none

/-- The order of two numbers, if they have one. -/
def compare? : Number → Number → Option Ordering
  | int a, int b => some (Ord.compare a.toInt b.toInt)
  | a, b => compareFloat a.toFloat b.toFloat

/-- Numbers in texts: positional from a ten thousandth up to a thousand
million million, and without a fraction where they have none. -/
def layout : Decimal.Layout :=
  { tie := .up
    least := -4
    greatest := 15
    pointAfterWhole := false
    pointBeforeExponent := true
    exponentMark := "E+"
    negativeExponentMark := "E-"
    signedZero := false
    notNumber := "NAN"
    infinity := "INF" }

def toText : Number → String
  | int n => toString n.toInt
  | float x => layout.write x

end Number

end EditGuard
