import EditGuard.Unicode.Category
import EditGuard.Unicode.Newer
import EditGuard.Unicode.Property.Identifier
import EditGuard.Unicode.Property.Mark

/-!
# Letters, digits and visible characters
-/

namespace EditGuard.Text

open Unicode

/-- The Unicode property `Alphabetic`. -/
def isAlphabetic (c : Char) : Bool :=
  if c.toNat < 0x80 then c.isAlpha
  else inRuns alphabeticRuns c.toNat || inRuns addedAlphabeticRuns c.toNat

/-- Numbers of all kinds: decimal digits, letter numbers and others. -/
def isNumeric (c : Char) : Bool :=
  if c.toNat < 0x80 then c.isDigit
  else
    inCategories [.decimalNumber, .letterNumber, .otherNumber] c.toNat ||
      inRuns addedNumericRuns c.toNat

def isAlphanumeric (c : Char) : Bool :=
  isAlphabetic c || isNumeric c

/-- Whether a character is visible by itself: neither a control or format
character, nor a separator other than the blank, nor unassigned. -/
def isPrintable (c : Char) : Bool :=
  let n := c.toNat
  if n < 0x80 then 0x20 ≤ n && n != 0x7F
  else
    inRuns addedAssignedRuns n || isAssigned n &&
      !inCategories [.control, .format, .surrogate, .privateUse, .lineSeparator,
        .paragraphSeparator, .spaceSeparator] n

/-- Whether a character joins the one before it. -/
def extendsGrapheme (c : Char) : Bool :=
  0x80 ≤ c.toNat &&
    (inRuns graphemeExtendRuns c.toNat || inRuns addedGraphemeExtendRuns c.toNat)

end EditGuard.Text
