import EditGuard.Pattern.CharSet

/-!
# The tree of a pattern

A pattern matches one character of a set, or a condition on its place, or is
made of smaller patterns.  Flags have been resolved: they show in the sets, the
conditions, and the order in which a repetition prefers its matches.
-/

namespace EditGuard.Pattern

/-- A condition on a place in a text, by the characters before and after it. -/
inductive Look where
  | start
  | stop
  | lineStart
  | lineStop
  /-- The places at line breaks, where a carriage return may be part of one. -/
  | crlfLineStart
  | crlfLineStop
  | wordBoundary (ascii : Bool)
  | notWordBoundary (ascii : Bool)
  | wordStart (ascii : Bool)
  | wordStop (ascii : Bool)
  /-- No word character before the place. -/
  | wordStartHalf (ascii : Bool)
  /-- No word character after the place. -/
  | wordStopHalf (ascii : Bool)
deriving Repr, DecidableEq, Inhabited

namespace Look

/-- Whether there is a character, and a word one. -/
def isWord (ascii : Bool) : Option Char → Bool
  | none => false
  | some c => if ascii then c.isAlphanum || c == '_' else isWordChar c.toNat

/-- Whether a condition holds between two characters, of which either may be
missing at an end of the text. -/
def holds (l : Look) (before after : Option Char) : Bool :=
  match l with
  | start => before.isNone
  | stop => after.isNone
  | lineStart => before.isNone || before == some '\n'
  | lineStop => after.isNone || after == some '\n'
  | crlfLineStart =>
      before.isNone || before == some '\n' || (before == some '\r' && after != some '\n')
  | crlfLineStop =>
      after.isNone || after == some '\r' || (after == some '\n' && before != some '\r')
  | wordBoundary ascii => isWord ascii before != isWord ascii after
  | notWordBoundary ascii => isWord ascii before == isWord ascii after
  | wordStart ascii => !isWord ascii before && isWord ascii after
  | wordStop ascii => isWord ascii before && !isWord ascii after
  | wordStartHalf ascii => !isWord ascii before
  | wordStopHalf ascii => !isWord ascii after

end Look

/-- The tree of a pattern. -/
inductive Node where
  | empty
  | set (s : CharSet)
  | look (l : Look)
  /-- A part whose match is kept under a number. -/
  | group (index : Nat) (body : Node)
  | concat (first second : Node)
  /-- Either of two parts, the first one preferred. -/
  | either (first second : Node)
  /-- A part at least `least` and at most `most` times; a greedy repetition
  prefers more. -/
  | repetition (least : Nat) (most : Option Nat) (greedy : Bool) (body : Node)
deriving Repr, DecidableEq, Inhabited

namespace Node

/-- Whether a pattern can match nothing but the empty text. -/
def matchesOnlyEmpty : Node → Bool
  | empty => true
  | set _ => false
  | look _ => true
  | group _ body => body.matchesOnlyEmpty
  | concat a b => a.matchesOnlyEmpty && b.matchesOnlyEmpty
  | either a b => a.matchesOnlyEmpty && b.matchesOnlyEmpty
  | repetition _ _ _ body => body.matchesOnlyEmpty

/-- A repetition.  Of a part that can only match the empty text once is enough,
and no times is the empty pattern. -/
def repeated (least : Nat) (most : Option Nat) (greedy : Bool) (body : Node) : Node :=
  let onlyEmpty := body.matchesOnlyEmpty
  let least := if onlyEmpty then min least 1 else least
  let most := if onlyEmpty then some ((most.map fun n => min n 1).getD 1) else most
  if least = 0 ∧ most = some 0 then empty
  else if least = 1 ∧ most = some 1 then body
  else repetition least most greedy body

/-- The number of the last group. -/
def lastGroup : Node → Nat
  | empty | set _ | look _ => 0
  | group index body => max index body.lastGroup
  | concat a b | either a b => max a.lastGroup b.lastGroup
  | repetition _ _ _ body => body.lastGroup

end Node

end EditGuard.Pattern
