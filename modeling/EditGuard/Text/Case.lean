import EditGuard.Unicode.CaseTable
import EditGuard.Unicode.Newer
import EditGuard.Unicode.Property.Case

/-!
# Upper and lower case

Full Unicode case conversion, in which a letter may become several characters.
The only conversion that looks at the surrounding text is that of the capital
sigma, which has a form of its own at the end of a word.
-/

namespace EditGuard.Text

open Unicode

/-- The images of a character under expansions, else under shifts. -/
def convert (expansions : List (Nat × List Nat)) (shifts : List Shift) (c : Char) :
    List Char :=
  match expansions.lookup c.toNat with
  | some images => images.map Char.ofNat
  | none =>
      match Shift.image? shifts c.toNat with
      | some image => [Char.ofNat image]
      | none => [c]

/-- The lower case of a character by itself. -/
def lower (c : Char) : List Char :=
  if c.toNat < 0x80 then [c.toLower] else convert lowerExpansions lowerShifts c

/-- The upper case of a character. -/
def upper (c : Char) : List Char :=
  if c.toNat < 0x80 then [c.toUpper] else convert upperExpansions upperShifts c

/-- Whether case conversion passes over a character. -/
def isCaseIgnorable (c : Char) : Bool :=
  inRuns caseIgnorableRuns c.toNat || inRuns addedCaseIgnorableRuns c.toNat

/-- Whether a character is a letter of upper, lower or title case. -/
def isCased (c : Char) : Bool :=
  inRuns casedRuns c.toNat && !inRuns noLongerCasedRuns c.toNat ||
    inRuns addedCasedRuns c.toNat

/-- Whether the first character that case conversion does not ignore has case. -/
def startsCased (cs : List Char) : Bool :=
  match cs.dropWhile isCaseIgnorable with
  | [] => false
  | c :: _ => isCased c

/-- The small sigma for a capital one between two stretches of text. -/
def smallSigma (reversedBefore after : List Char) : Char :=
  if startsCased reversedBefore && !startsCased after then 'ς' else 'σ'

/-- The lower case of a text, whose characters before it are given in reverse. -/
def lowerFrom (reversedBefore : List Char) : List Char → List Char
  | [] => []
  | c :: cs =>
      (if c = 'Σ' then [smallSigma reversedBefore cs] else lower c) ++
        lowerFrom (c :: reversedBefore) cs

/-- A text in lower case. -/
def toLower (s : String) : String :=
  String.ofList (lowerFrom [] s.toList)

/-- A text in upper case. -/
def toUpper (s : String) : String :=
  String.ofList (s.toList.flatMap upper)

end EditGuard.Text
