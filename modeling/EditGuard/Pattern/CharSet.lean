import EditGuard.Text.Blank
import EditGuard.Unicode.CaseTable
import EditGuard.Unicode.Category
import EditGuard.Unicode.Property.Control
import EditGuard.Unicode.Property.Identifier

/-!
# Sets of characters in patterns

What a place of a pattern may match.  Sets are built from runs of code points
and from named classes by the operations on sets, and membership is computed
from that expression.  Folding a set adds every character that equals a member
without regard to case.
-/

namespace EditGuard.Pattern

open Unicode

/-- Letters, marks, decimal digits and connectors: the characters of words. -/
def isWordChar (n : Nat) : Bool :=
  if n < 0x80 then
    (Char.ofNat n).isAlphanum || n == '_'.toNat
  else
    inRuns alphabeticRuns n || inRuns joinControlRuns n ||
      inCategories [.nonspacingMark, .spacingMark, .enclosingMark, .decimalNumber,
        .connectorPunctuation] n

/-- The characters that equal one without regard to case, by their code points. -/
def caseVariants (n : Nat) : List Nat :=
  let folded := (Shift.image? foldShifts n).getD n
  folded :: Shift.preimages foldShifts folded

/-- The other case of an ASCII letter, or the character itself. -/
def otherAsciiCase (n : Nat) : Nat :=
  if 0x41 ≤ n ∧ n ≤ 0x5A then n + 0x20
  else if 0x61 ≤ n ∧ n ≤ 0x7A then n - 0x20
  else n

/-- A set of characters. -/
inductive CharSet where
  | runs (rs : List Run)
  /-- Characters of words. -/
  | word
  /-- Decimal digits of all scripts. -/
  | digit
  /-- Blank characters. -/
  | space
  /-- Characters of given general categories. -/
  | category (cs : List Category)
  | union (a b : CharSet)
  | inter (a b : CharSet)
  | diff (a b : CharSet)
  | symmDiff (a b : CharSet)
  | compl (a : CharSet)
  /-- All case variants of the members. -/
  | folded (a : CharSet)
  /-- Both cases of the members that are ASCII letters. -/
  | asciiFolded (a : CharSet)
deriving Repr, DecidableEq, Inhabited

namespace CharSet

/-- Whether a code point is in a set. -/
def contains : CharSet → Nat → Bool
  | runs rs, n => inRuns rs n
  | word, n => isWordChar n
  | digit, n => Category.decimalNumber.contains n
  | space, n => Text.isBlank (Char.ofNat n)
  | category cs, n => inCategories cs n
  | union a b, n => a.contains n || b.contains n
  | inter a b, n => a.contains n && b.contains n
  | diff a b, n => a.contains n && !b.contains n
  | symmDiff a b, n => a.contains n != b.contains n
  | compl a, n => !a.contains n
  | folded a, n => a.contains n || (caseVariants n).any a.contains
  | asciiFolded a, n => a.contains n || a.contains (otherAsciiCase n)

/-- The code points from one to another. -/
def range (first last : Nat) : CharSet :=
  runs [⟨first, last, 1⟩]

/-- A single code point. -/
def single (n : Nat) : CharSet :=
  range n n

def empty : CharSet :=
  runs []

/-- Every code point. -/
def any : CharSet :=
  range 0 0x10FFFF

/-- Whether a set of bytes has no member beyond ASCII. -/
def isAsciiOnly (s : CharSet) : Bool :=
  (List.range 128).all fun i => !s.contains (128 + i)

end CharSet

end EditGuard.Pattern
