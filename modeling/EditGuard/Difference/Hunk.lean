import EditGuard.Difference
import EditGuard.Text.Lines

/-!
# Hunks

The difference of two texts line by line.  A hunk is a run of changed lines: a
header with the line numbers and the counts in both texts, and then each line
with a minus sign if it was removed and a plus sign if it was added.
-/

namespace EditGuard.Difference

/-- A run of changed lines with the numbers of the first ones in both texts. -/
structure Hunk where
  oldLine : Nat
  newLine : Nat
  changes : List (Change String)
deriving Repr, DecidableEq, Inhabited

namespace Hunk

/-- Lines of the old text in a hunk. -/
def removed (h : Hunk) : List String :=
  h.changes.filterMap Change.removed?

/-- Lines of the new text in a hunk. -/
def added (h : Hunk) : List String :=
  h.changes.filterMap Change.added?

/-- A changed line with its mark. -/
def lineText : Change String → String
  | .keep _ => ""
  | .remove line => "-" ++ line ++ "\n"
  | .add line => "+" ++ line ++ "\n"

def text (h : Hunk) : String :=
  s!"@@ -{h.oldLine},{h.removed.length} +{h.newLine},{h.added.length} @@\n" ++
    String.join (h.changes.map lineText)

end Hunk

/-- The hunks of changes, given the numbers of the next lines and the changes of
the current run, the latest first. -/
def hunksFrom (oldLine newLine : Nat) (run : List (Change String)) :
    List (Change String) → List Hunk
  | [] => close
  | c :: cs =>
      if c.isKeep then
        close ++ hunksFrom (oldAfter + 1) (newAfter + 1) [] cs
      else hunksFrom oldLine newLine (c :: run) cs
where
  hunk : Hunk := ⟨oldLine, newLine, run.reverse⟩
  close : List Hunk := if run.isEmpty then [] else [hunk]
  oldAfter : Nat := oldLine + hunk.removed.length
  newAfter : Nat := newLine + hunk.added.length

/-- The hunks of changes. -/
def hunks (cs : List (Change String)) : List Hunk :=
  hunksFrom 1 1 [] cs

/-- The difference of two texts. -/
def ofTexts (old new : String) : String :=
  let lines (text : String) : List String := (Text.feedLines text.toList).map String.ofList
  String.join ((hunks (changes (lines old) (lines new))).map Hunk.text)

/-- The lines of a difference that have a mark, without it.  Headers of hunks are
left out. -/
def markedLines (mark : Char) (difference : String) : List String :=
  (Text.endedLines difference.toList).filterMap fun line =>
    match line with
    | '@' :: '@' :: _ => none
    | c :: rest => if c = mark then some (String.ofList rest) else none
    | [] => none

end EditGuard.Difference
