import EditGuard.Text.Digit

/-!
# Sets of code points

A set of code points is a list of runs.  A run goes from a first to a last code
point in equal steps.  In the tables a run is written as hexadecimal numbers,
`first`, `first-last`, or `first-last/step`, with blanks between runs.  A named
set is a class.
-/

namespace EditGuard.Unicode

/-- Code points from `first` to `last` in steps of `step`. -/
structure Run where
  first : Nat
  last : Nat
  step : Nat
deriving Repr, DecidableEq, Inhabited

/-- Whether a code point is in a run. -/
def Run.contains (r : Run) (n : Nat) : Bool :=
  r.first ≤ n && n ≤ r.last && (n - r.first) % r.step == 0

/-- Whether a code point is in one of several runs. -/
def inRuns (runs : List Run) (n : Nat) : Bool :=
  runs.any (·.contains n)

/-- A property, or a value of one: its full name, its code, and its code points. -/
structure CharClass where
  fullName : String
  code : String
  runs : List Run
deriving Repr, DecidableEq, Inhabited

namespace Table

/-- Cut a text at a character. -/
def cut (mark : Char) : List Char → List (List Char)
  | [] => [[]]
  | c :: cs =>
      if c = mark then [] :: cut mark cs
      else
        match cut mark cs with
        | [] => [[c]]
        | piece :: rest => (c :: piece) :: rest

/-- A hexadecimal number; what is no digit counts as zero. -/
def hex (cs : List Char) : Nat :=
  Text.ofDigitValues 16 (cs.map fun c => (Text.hexValue? c).getD 0)

/-- One written run. -/
def run (cs : List Char) : Run :=
  let (range, step) :=
    match cut '/' cs with
    | [range, step] => (range, hex step)
    | _ => (cs, 1)
  match cut '-' range with
  | [first, last] => ⟨hex first, hex last, step⟩
  | _ => ⟨hex range, hex range, step⟩

/-- The entries of a line of a table, which have blanks between them. -/
def entries (line : String) : List (List Char) :=
  (cut ' ' line.toList).filter (!·.isEmpty)

/-- The runs that a table writes. -/
def runs (table : List String) : List Run :=
  (table.flatMap entries).map run

example : runs ["41-5A 100-136/2", "aa"] =
    [⟨0x41, 0x5A, 1⟩, ⟨0x100, 0x136, 2⟩, ⟨0xAA, 0xAA, 1⟩] := by decide +kernel

end Table

end EditGuard.Unicode
