import EditGuard.Pattern.Node
import EditGuard.Unicode.Property.Punctuation

/-!
# The size of a compiled pattern

A pattern is refused if its automaton on bytes would take too much memory.  The
size is counted in bytes of memory: 32 for a state, 8 for a labelled edge, and 4
for an edge without a label.  Repetitions are unrolled.  A set of characters is
divided into ranges of code points, and these into rows of byte ranges, which
share the states of their common beginnings.
-/

namespace EditGuard.Pattern

open Unicode

/-! ## Ranges of a set -/

namespace Ranges

/-- The ranges of a run. -/
def ofRun (r : Run) : List (Nat × Nat) :=
  if r.step = 1 then [(r.first, r.last)]
  else (List.range ((r.last - r.first) / r.step + 1)).map fun i =>
    (r.first + r.step * i, r.first + r.step * i)

/-- Join each range of a sorted list with the ones that it meets. -/
def join : Nat × Nat → List (Nat × Nat) → List (Nat × Nat)
  | range, [] => [range]
  | range, next :: rest =>
      if next.1 ≤ range.2 + 1 then join (range.1, max range.2 next.2) rest
      else range :: join next rest

/-- Ranges in ascending order with gaps between them. -/
def sorted (ranges : List (Nat × Nat)) : List (Nat × Nat) :=
  match ranges.mergeSort fun a b => a.1 ≤ b.1 with
  | [] => []
  | range :: rest => join range rest

/-- The gaps between ranges from a code point on. -/
def gapsFrom (start : Nat) : List (Nat × Nat) → List (Nat × Nat)
  | [] => if start ≤ 0x10FFFF then [(start, 0x10FFFF)] else []
  | range :: rest =>
      if start < range.1 then (start, range.1 - 1) :: gapsFrom (range.2 + 1) rest
      else gapsFrom (range.2 + 1) rest

/-- All that is not in sorted ranges. -/
def compl (ranges : List (Nat × Nat)) : List (Nat × Nat) :=
  gapsFrom 0 ranges

def union (a b : List (Nat × Nat)) : List (Nat × Nat) :=
  sorted (a ++ b)

def inter (a b : List (Nat × Nat)) : List (Nat × Nat) :=
  compl (union (compl a) (compl b))

/-- How many code points sorted ranges have. -/
def count : List (Nat × Nat) → Nat
  | [] => 0
  | range :: rest => range.2 + 1 - range.1 + count rest

/-- The code points of ranges. -/
def members (ranges : List (Nat × Nat)) : List Nat :=
  ranges.flatMap fun range =>
    (List.range (range.2 + 1 - range.1)).map (range.1 + ·)

example : join (0, 2) [(3, 3), (5, 6)] = [(0, 3), (5, 6)] := by decide +kernel
example : compl [(0, 3), (5, 6)] = [(4, 4), (7, 0x10FFFF)] := by decide +kernel

end Ranges

/-- Up to this many members a set is folded member by member.  Larger sets are
taken to have the variants of their members already. -/
def foldedOneByOne : Nat := 256

/-- The ranges of a set. -/
def CharSet.ranges : CharSet → List (Nat × Nat)
  | runs rs => Ranges.sorted (rs.flatMap Ranges.ofRun)
  | word =>
      Ranges.sorted ((0x5F, 0x5F) :: (alphabeticRuns ++ joinControlRuns ++
        ([.nonspacingMark, .spacingMark, .enclosingMark, .decimalNumber,
          .connectorPunctuation] : List Category).flatMap (·.runs)).flatMap Ranges.ofRun)
  | digit => Ranges.sorted (Category.decimalNumber.runs.flatMap Ranges.ofRun)
  | space => Ranges.sorted (whiteSpaceRuns.flatMap Ranges.ofRun)
  | category cs => Ranges.sorted (cs.flatMap fun c => c.runs.flatMap Ranges.ofRun)
  | union a b => Ranges.union a.ranges b.ranges
  | inter a b => Ranges.inter a.ranges b.ranges
  | diff a b => Ranges.inter a.ranges (Ranges.compl b.ranges)
  | symmDiff a b =>
      let left := a.ranges
      let right := b.ranges
      Ranges.inter (Ranges.union left right) (Ranges.compl (Ranges.inter left right))
  | compl a => Ranges.compl a.ranges
  | folded a =>
      let ranges := a.ranges
      if Ranges.count ranges ≤ foldedOneByOne then
        Ranges.sorted (ranges ++ (Ranges.members ranges).flatMap fun n =>
          (caseVariants n).map fun v => (v, v))
      else ranges
  | asciiFolded a =>
      let ranges := a.ranges
      Ranges.sorted (ranges ++ ((List.range 0x80).filter fun n =>
        a.contains n).map fun n => (otherAsciiCase n, otherAsciiCase n))

/-! ## Rows of byte ranges -/

/-- The rows of byte ranges for a range of numbers of so many bytes after the
first, of which each holds six bits. -/
def byteRows : Nat → Nat → Nat → List (List (Nat × Nat))
  | 0, low, high => [[(low, high)]]
  | more + 1, low, high =>
      let unit := Nat.pow 64 (more + 1)
      let first := low / unit
      let last := high / unit
      if first = last then
        (byteRows more (low % unit) (high % unit)).map ((first, first) :: ·)
      else
        let lowIsWhole := low % unit = 0
        let highIsWhole := high % unit = unit - 1
        let start := if lowIsWhole then first else first + 1
        let stop := if highIsWhole then last else last - 1
        (if lowIsWhole then []
          else (byteRows more (low % unit) (unit - 1)).map ((first, first) :: ·)) ++
        (if start ≤ stop then [(start, stop) :: List.replicate (more + 1) (0, 63)] else []) ++
        (if highIsWhole then []
          else (byteRows more 0 (high % unit)).map ((last, last) :: ·))

/-- The spans of code points whose encodings have the same number of bytes, with
the number of bytes after the first.  Surrogates have no encoding. -/
def encodedSpans : List (Nat × Nat × Nat) :=
  [(0, 0x7F, 0), (0x80, 0x7FF, 1), (0x800, 0xD7FF, 2), (0xE000, 0xFFFF, 2),
    (0x10000, 0x10FFFF, 3)]

/-- The rows of byte ranges that encode a range of code points. -/
def encodedRows (range : Nat × Nat) : List (List (Nat × Nat)) :=
  encodedSpans.flatMap fun (first, last, more) =>
    let low := max range.1 first
    let high := min range.2 last
    if low ≤ high then (byteRows more low high).map ((more, more) :: ·) else []

/-- How many elements two rows have in common at their beginnings. -/
def commonLength : List (Nat × Nat) → List (Nat × Nat) → Nat
  | a :: as, b :: bs => if a = b then commonLength as bs + 1 else 0
  | _, _ => 0

/-- The states for rows of byte ranges after a given row. -/
def rowStates (previous : List (Nat × Nat)) : List (List (Nat × Nat)) → Nat
  | [] => 0
  | row :: rest =>
      row.length - max 1 (commonLength previous row) + rowStates row rest

/-! ## Sizes -/

/-- The number of bytes that encode a code point. -/
def encodedLength (n : Nat) : Nat :=
  if n < 0x80 then 1 else if n < 0x800 then 2 else if n < 0x10000 then 3 else 4

/-- The size of a set: states in a row for a single code point, one state with an
edge for each range if all are ASCII, and else states for the rows that encode
the ranges. -/
def rangesSize (ranges : List (Nat × Nat)) : Nat :=
  match ranges with
  | [(first, last)] => if first = last then 32 * encodedLength first else many ranges
  | _ => many ranges
where
  many (ranges : List (Nat × Nat)) : Nat :=
    if ranges.all fun range => range.2 < 0x80 then 64 + 8 * ranges.length
    else
      let rows := ranges.flatMap encodedRows
      32 * (rowStates [] rows + 2) + 4 * rows.length

namespace Node

/-- The set of a choice among single characters. -/
def choice? : Node → Option CharSet
  | set s => some s
  | either a b =>
      match a.choice?, b.choice? with
      | some s, some t => some (.union s t)
      | _, _ => none
  | _ => none

/-- Whether a pattern is the empty one. -/
def isEmpty : Node → Bool
  | empty => true
  | _ => false

/-- The size of a part of a pattern.  A choice that goes on another one takes an
edge more and no states of its own. -/
def sizeIn (inChoice : Bool) : Node → Nat
  | empty | look _ => 32
  | set s => rangesSize s.ranges
  | group _ body => 64 + body.sizeIn false
  | concat a b =>
      (if a.isEmpty then 0 else a.sizeIn false) + (if b.isEmpty then 0 else b.sizeIn false)
  | either a b =>
      match choice? (either a b) with
      | some s => if inChoice then a.sizeIn true + b.sizeIn true + 4 else rangesSize s.ranges
      | none => (if inChoice then 4 else 72) + a.sizeIn true + b.sizeIn true
  | repetition least most _ body =>
      let size := body.sizeIn false
      match most with
      | none => size * max least 1 + 40
      | some most =>
          if least = most then size * least
          else size * least + (size + 40) * (most - least) + 32

/-- The size of a whole pattern, with the states that look for a beginning. -/
def size (n : Node) : Nat :=
  n.sizeIn false + 208

end Node

end EditGuard.Pattern
