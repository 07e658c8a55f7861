/-!
# Digits

Digits of bases up to sixteen, in ASCII letters of either case.
-/

namespace EditGuard.Text

/-- The value of a hexadecimal digit. -/
def hexValue? (c : Char) : Option Nat :=
  if c.isDigit then some (c.toNat - '0'.toNat)
  else if 'a' ≤ c ∧ c ≤ 'f' then some (c.toNat - 'a'.toNat + 10)
  else if 'A' ≤ c ∧ c ≤ 'F' then some (c.toNat - 'A'.toNat + 10)
  else none

def isHexDigit (c : Char) : Bool :=
  (hexValue? c).isSome

/-- The value of a digit of a base up to sixteen. -/
def digitValue? (base : Nat) (c : Char) : Option Nat :=
  (hexValue? c).filter (· < base)

/-- The values of a row of digits, if all of them are digits of the base. -/
def digitValues? (base : Nat) (cs : List Char) : Option (List Nat) :=
  cs.mapM (digitValue? base)

/-- The number that digit values denote, the most significant first. -/
def ofDigitValues (base : Nat) (ds : List Nat) : Nat :=
  ds.foldl (fun n d => base * n + d) 0

/-- A decimal digit has its value in every base from ten on. -/
theorem hexValue?_of_isDigit {c : Char} (h : c.isDigit = true) :
    hexValue? c = some (c.toNat - '0'.toNat) := by
  simp [hexValue?, h]

end EditGuard.Text
