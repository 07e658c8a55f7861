import EditGuard.Number
import EditGuard.Text.Blank

/-!
# Numbers in texts

A numeral is an optional sign, decimal digits with an optional fraction, and an
optional exponent; of the digits before and after the point at least one has to
be there.  `Numeral.scan` reads the longest numeral at the head of a text.
-/

namespace EditGuard

/-- The parts of a written number. -/
structure Numeral where
  negative : Bool
  whole : List Char
  /-- The digits after the decimal point, if there is a point. -/
  fraction : Option (List Char)
  /-- The sign and the digits of the exponent, if there is one. -/
  exponent : Option (Bool × List Char)
deriving Repr, DecidableEq

namespace Numeral

/-- The digits at the head of a text and what follows them. -/
def digits (cs : List Char) : List Char × List Char :=
  cs.span Char.isDigit

/-- A sign at the head of a text, whether it is a minus, and what follows it. -/
def sign : List Char → Bool × List Char
  | '+' :: cs => (false, cs)
  | '-' :: cs => (true, cs)
  | cs => (false, cs)

/-- A decimal point and the digits after it.  Without digits before it, the
point needs digits after it. -/
def point (whole : List Char) : List Char → Option (List Char) × List Char
  | '.' :: cs =>
      let (fraction, rest) := digits cs
      if whole.isEmpty && fraction.isEmpty then (none, '.' :: cs)
      else (some fraction, rest)
  | cs => (none, cs)

/-- An exponent, which needs digits after its mark and sign. -/
def power (cs : List Char) : Option (Bool × List Char) × List Char :=
  match cs with
  | mark :: afterMark =>
      if mark = 'e' ∨ mark = 'E' then
        let (negative, afterSign) := sign afterMark
        let (exponent, rest) := digits afterSign
        if exponent.isEmpty then (none, cs) else (some (negative, exponent), rest)
      else (none, cs)
  | [] => (none, cs)

/-- The longest numeral at the head of a text and what follows it. -/
def scan (cs : List Char) : Option (Numeral × List Char) :=
  let (negative, afterSign) := sign cs
  let (whole, afterWhole) := digits afterSign
  let (fraction, afterFraction) := point whole afterWhole
  if whole.isEmpty && fraction.isNone then none
  else
    let (exponent, rest) := power afterFraction
    some (⟨negative, whole, fraction, exponent⟩, rest)

/-- The magnitude of a numeral in floating point. -/
def magnitude (n : Numeral) : Float :=
  let fraction := n.fraction.getD []
  let shift : Int :=
    match n.exponent with
    | some (true, ds) => -(Decimal.naturalOf ds : Int)
    | some (false, ds) => Decimal.naturalOf ds
    | none => 0
  Decimal.ofDecimal (Decimal.naturalOf (n.whole ++ fraction)) (shift - fraction.length)

/-- The number that a numeral denotes: an integer when it has neither point nor
exponent and is in range. -/
def value (n : Numeral) : Number :=
  let magnitude : Int := Decimal.naturalOf n.whole
  let signed := if n.negative then -magnitude else magnitude
  let approximation := if n.negative then -n.magnitude else n.magnitude
  if n.fraction.isNone && n.exponent.isNone then Number.exactOr signed approximation
  else .float approximation

end Numeral

namespace Number

/-- The number that a whole text denotes.  Blanks may come before the numeral
and nothing after it. -/
def ofText? (text : String) : Option Number :=
  match Numeral.scan (text.toList.dropWhile Text.isBlank) with
  | some (numeral, []) => some numeral.value
  | _ => none

/-- The number at the head of a text, zero if there is none. -/
def ofTextPrefix (text : String) : Number :=
  match Numeral.scan (text.toList.dropWhile Text.isBlank) with
  | some (numeral, _) => numeral.value
  | none => .int 0

end Number

end EditGuard
