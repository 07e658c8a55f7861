import EditGuard.Text.Digit

/-!
# Integers in texts

A row of decimal digits, with a sign in front or without.  Digits are read from
the left, and the first one that is wrong or makes the number too large decides
what is wrong with the text.
-/

namespace EditGuard.Text

/-- Why a text is no integer. -/
inductive IntegerFault where
  | empty
  | badDigit
  | tooLarge
  | tooSmall
deriving Repr, DecidableEq, Inhabited

/-- The wording of the reason. -/
def IntegerFault.text : IntegerFault → String
  | empty => "cannot parse integer from empty string"
  | badDigit => "invalid digit found in string"
  | tooLarge => "number too large to fit in target type"
  | tooSmall => "number too small to fit in target type"

/-- Read digits after those of a number, as long as it is at most a limit. -/
def readDigits (limit : Nat) (beyond : IntegerFault) (n : Nat) :
    List Char → Except IntegerFault Nat
  | [] => .ok n
  | c :: cs =>
      match digitValue? 10 c with
      | none => .error .badDigit
      | some d =>
          if limit < 10 * n + d then .error beyond
          else readDigits limit beyond (10 * n + d) cs

/-- Read a natural number of 64 bits. -/
def readNatural (text : String) : Except IntegerFault Nat :=
  match text.toList with
  | [] => .error .empty
  | ['+'] => .error .badDigit
  | '+' :: cs => readDigits (0xffffffffffffffff) .tooLarge 0 cs
  | cs => readDigits (0xffffffffffffffff) .tooLarge 0 cs

/-- Read an integer of 64 bits with a sign. -/
def readInteger (text : String) : Except IntegerFault Int :=
  match text.toList with
  | [] => .error .empty
  | ['+'] | ['-'] => .error .badDigit
  | '+' :: cs => (readDigits (0x7fffffffffffffff) .tooLarge 0 cs).map Int.ofNat
  | '-' :: cs => (readDigits (0x8000000000000000) .tooSmall 0 cs).map fun n => -(n : Int)
  | cs => (readDigits (0x7fffffffffffffff) .tooLarge 0 cs).map Int.ofNat

end EditGuard.Text
