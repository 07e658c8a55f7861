/-!
# Finding texts in texts

Occurrences are looked for from the left and do not overlap.  `skip` counts the
characters that still belong to the last occurrence.
-/

namespace EditGuard.Text

/-- How many characters stand before the first occurrence. -/
def find? (needle : List Char) : List Char → Option Nat
  | [] => if needle.isEmpty then some 0 else none
  | c :: cs =>
      if needle.isPrefixOf (c :: cs) then some 0 else (find? needle cs).map (· + 1)

/-- Whether a text occurs in another one. -/
def occursIn (needle hay : String) : Bool :=
  (find? needle.toList hay.toList).isSome

/-- The number of occurrences of a text that is not empty. -/
def occurrences (needle : List Char) (skip : Nat) : List Char → Nat
  | [] => 0
  | c :: cs =>
      match skip with
      | k + 1 => occurrences needle k cs
      | 0 =>
          if needle.isPrefixOf (c :: cs) then 1 + occurrences needle (needle.length - 1) cs
          else occurrences needle 0 cs

/-- Put another text in place of each occurrence of a text that is not empty. -/
def replaceAll (needle other : List Char) (skip : Nat) : List Char → List Char
  | [] => []
  | c :: cs =>
      match skip with
      | k + 1 => replaceAll needle other k cs
      | 0 =>
          if needle.isPrefixOf (c :: cs) then
            other ++ replaceAll needle other (needle.length - 1) cs
          else c :: replaceAll needle other 0 cs

end EditGuard.Text
