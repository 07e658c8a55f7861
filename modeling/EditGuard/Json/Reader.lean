import EditGuard.Json
import EditGuard.Text.Digit

/-!
# Reading JSON texts

A recursive reader over characters.  The depth of nesting is bounded, and the
bound is what the recursion of `value?` runs on; the items of a list are read
from an ever shorter rest of the text.
-/

namespace EditGuard.Json

/-- The characters that may stand between tokens. -/
def isSpace (c : Char) : Bool :=
  c == ' ' || c == '\n' || c == '\t' || c == '\r'

def skipSpace (cs : List Char) : List Char :=
  cs.dropWhile isSpace

/-- The number written by four hexadecimal digits. -/
def hexQuad? (a b c d : Char) : Option Nat := do
  let a ← Text.hexValue? a
  let b ← Text.hexValue? b
  let c ← Text.hexValue? c
  let d ← Text.hexValue? d
  return ((a * 16 + b) * 16 + c) * 16 + d

/-- The character that a simple escape stands for. -/
def unescape? (c : Char) : Option Char :=
  if c = '"' ∨ c = '\\' ∨ c = '/' then some c
  else if c = 'b' then some '\x08'
  else if c = 'f' then some '\x0c'
  else if c = 'n' then some '\n'
  else if c = 'r' then some '\r'
  else if c = 't' then some '\t'
  else none

/-- Whether a number is the first half of a pair that writes one character. -/
def isLeading (n : Nat) : Bool :=
  0xD800 ≤ n && n < 0xDC00

/-- Whether a number is the second half of such a pair. -/
def isTrailing (n : Nat) : Bool :=
  0xDC00 ≤ n && n < 0xE000

/-- The characters of a string up to its closing quote, and what follows. -/
def stringBody? : List Char → Option (List Char × List Char)
  | [] => none
  | '"' :: cs => some ([], cs)
  | '\\' :: 'u' :: a :: b :: c :: d :: cs =>
      match hexQuad? a b c d with
      | none => none
      | some first =>
          if isLeading first then
            match cs with
            | '\\' :: 'u' :: e :: f :: g :: h :: rest =>
                match hexQuad? e f g h with
                | none => none
                | some second =>
                    if isTrailing second then
                      let code := 0x10000 + (first - 0xD800) * 0x400 + (second - 0xDC00)
                      (stringBody? rest).map fun r => (Char.ofNat code :: r.1, r.2)
                    else none
            | _ => none
          else if isTrailing first then none
          else (stringBody? cs).map fun r => (Char.ofNat first :: r.1, r.2)
  | '\\' :: e :: cs =>
      match unescape? e with
      | none => none
      | some c => (stringBody? cs).map fun r => (c :: r.1, r.2)
  | c :: cs =>
      if c = '\\' ∨ c.toNat < 0x20 then none
      else (stringBody? cs).map fun r => (c :: r.1, r.2)

/-- A string with its opening quote, and what follows. -/
def string? : List Char → Option (String × List Char)
  | '"' :: cs => (stringBody? cs).map fun r => (String.ofList r.1, r.2)
  | _ => none

/-! ## Numbers

A fraction is read into a whole number of at most 64 bits and a power of ten.
Digits that do not fit any more only count.  The floating point number is the
first one scaled by the second, which is not always the nearest one. -/

/-- The greatest whole number that a fraction is read into. -/
def significandLimit : Nat :=
  0xffffffffffffffff

/-- The greatest exponent that is computed with. -/
def exponentLimit : Nat :=
  0x7fffffff

/-- The power `10 ^ k` in floating point. -/
def powerOfTen (k : Nat) : Float :=
  Float.ofScientific 1 false k

/-- Divide by `10 ^ k` in steps of at most 308 powers. -/
def scaleDown (x : Float) (k : Nat) : Float :=
  if k ≤ 308 then x / powerOfTen k
  else if x == 0 then x
  else scaleDown (x / powerOfTen 308) (k - 308)
termination_by k

/-- The number `significand · 10 ^ exponent`, unless it is too large. -/
def scaled? (significand : Nat) (exponent : Int) : Option Float :=
  let x := Float.ofNat significand
  if exponent < 0 then some (scaleDown x exponent.natAbs)
  else if 308 < exponent then if x == 0 then some x else none
  else
    let y := x * powerOfTen exponent.natAbs
    if y.isInf then none else some y

/-- Add digits to a whole number as long as it stays in 64 bits.  The result is
the number, how many digits it took, and what follows those. -/
def takeDigits (significand taken : Nat) : List Char → Nat × Nat × List Char
  | [] => (significand, taken, [])
  | c :: cs =>
      let next := significand * 10 + (c.toNat - '0'.toNat)
      if c.isDigit ∧ next ≤ significandLimit then takeDigits next (taken + 1) cs
      else (significand, taken, c :: cs)

/-- The exponent after its mark.  One that is too large leaves only zero. -/
def exponentPart? (significand : Nat) (start : Int) (cs : List Char) :
    Option (Float × List Char) :=
  let (negative, afterSign) :=
    match cs with
    | '+' :: rest => (false, rest)
    | '-' :: rest => (true, rest)
    | _ => (false, cs)
  let (digits, rest) := afterSign.span Char.isDigit
  if digits.isEmpty then none
  else
    let exponent := Decimal.naturalOf digits
    if exponentLimit < exponent then
      if negative || significand == 0 then some (0, rest) else none
    else
      let total := if negative then start - exponent else start + exponent
      (scaled? significand total).map (·, rest)

/-- An optional exponent. -/
def exponent? (significand : Nat) (start : Int) (cs : List Char) :
    Option (Float × List Char) :=
  match cs with
  | mark :: rest =>
      if mark = 'e' ∨ mark = 'E' then exponentPart? significand start rest
      else (scaled? significand start).map (·, cs)
  | [] => (scaled? significand start).map (·, cs)

/-- The digits after a decimal point, of which there is at least one, and an
optional exponent. -/
def fraction? (significand : Nat) (start : Int) (cs : List Char) :
    Option (Float × List Char) :=
  let (value, taken, rest) := takeDigits significand 0 cs
  let ignored := rest.takeWhile Char.isDigit
  if taken = 0 ∧ ignored = [] then none
  else exponent? value (start - taken) (rest.dropWhile Char.isDigit)

/-- What may follow the integer digits: a fraction, an exponent, or neither. -/
def afterInteger? (significand : Nat) (start : Int) (cs : List Char) :
    Option (Float × List Char) :=
  match cs with
  | '.' :: rest => fraction? significand start rest
  | _ => exponent? significand start cs

/-- Whether the integer digits are the whole of a number. -/
def endsNumber : List Char → Bool
  | c :: _ => !(c == '.' || c == 'e' || c == 'E')
  | [] => true

/-- A number without its sign.  An integer of at most 64 bits is exact, save
that a negative zero is no integer. -/
def magnitude? (negative : Bool) (cs : List Char) : Option (Json × List Char) :=
  let signed (r : Float × List Char) : Json × List Char :=
    (float (if negative then -r.1 else r.1), r.2)
  match cs with
  | [] => none
  | first :: more =>
      if !first.isDigit || (first == '0' && (more.head?.map Char.isDigit).getD false) then none
      else
        let (value, _, rest) := takeDigits 0 0 cs
        let excess := rest.takeWhile Char.isDigit
        let rest := rest.dropWhile Char.isDigit
        if excess = [] ∧ endsNumber rest then
          if negative then
            if value = 0 ∨ 0x8000000000000000 < value then some (float (-(Float.ofNat value)), rest)
            else some (integer (-value), rest)
          else some (integer value, rest)
        else (afterInteger? value excess.length rest).map signed

def number? : List Char → Option (Json × List Char)
  | '-' :: cs => magnitude? true cs
  | cs => magnitude? false cs

/-! ## Documents -/

/-- Items with commas between them, up to a closing character. -/
def items? {α : Type} (item? : List Char → Option (α × List Char)) (close : Char)
    (cs : List Char) : Option (List α × List Char) :=
  match item? (skipSpace cs) with
  | none => none
  | some (item, afterItem) =>
      match skipSpace afterItem with
      | [] => none
      | c :: rest =>
          if c = close then some ([item], rest)
          else if c = ',' then
            if _shorter : rest.length < cs.length then
              (items? item? close rest).map fun r => (item :: r.1, r.2)
            else none
          else none
termination_by cs.length

/-- A possibly empty list up to a closing character. -/
def list? {α : Type} (item? : List Char → Option (α × List Char)) (close : Char)
    (cs : List Char) : Option (List α × List Char) :=
  match skipSpace cs with
  | [] => none
  | c :: rest => if c = close then some ([], rest) else items? item? close cs

/-- A name, a colon and a value. -/
def member? (value? : List Char → Option (Json × List Char)) (cs : List Char) :
    Option ((String × Json) × List Char) :=
  match string? cs with
  | none => none
  | some (name, afterName) =>
      match skipSpace afterName with
      | ':' :: rest =>
          (value? (skipSpace rest)).map fun r => ((name, r.1), r.2)
      | _ => none

/-- A document at the head of a text that nests at most `depth` levels. -/
def value? (depth : Nat) (cs : List Char) : Option (Json × List Char) :=
  match cs with
  | 'n' :: 'u' :: 'l' :: 'l' :: rest => some (null, rest)
  | 't' :: 'r' :: 'u' :: 'e' :: rest => some (bool true, rest)
  | 'f' :: 'a' :: 'l' :: 's' :: 'e' :: rest => some (bool false, rest)
  | '"' :: _ => (string? cs).map fun r => (string r.1, r.2)
  | '[' :: rest =>
      match depth with
      | 0 => none
      | depth + 1 => (list? (value? depth) ']' rest).map fun r => (array r.1, r.2)
  | '\x7b' :: rest =>
      match depth with
      | 0 => none
      | depth + 1 =>
          (list? (member? (value? depth)) '\x7d' rest).map fun r => (object r.1, r.2)
  | _ => number? cs

/-- The deepest nesting that is read. -/
def depthLimit : Nat := 127

/-- Read a whole text as one document. -/
def parse? (text : String) : Option Json :=
  match value? depthLimit (skipSpace text.toList) with
  | some (j, rest) => if skipSpace rest = [] then some j else none
  | none => none

end EditGuard.Json
