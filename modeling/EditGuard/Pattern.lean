import EditGuard.Pattern.Reader
import EditGuard.Pattern.Search
import EditGuard.Pattern.Template

/-!
# Patterns

A pattern that has been read is searched for in texts: whether it matches, what
the groups of its first match hold, and where all its matches are.  A match may
be empty, but not where the previous one ended.
-/

namespace EditGuard

/-- A pattern ready for searching, and how many groups it has, the whole match
included. -/
structure Pattern where
  program : Pattern.Program
  groups : Nat
deriving Inhabited

namespace Pattern

/-- Read a pattern. -/
def parse (insensitive : Bool) (text : String) : Except PatternError Pattern := do
  let node ← Node.parse insensitive text
  return ⟨node.program, node.lastGroup + 1⟩

/-- A match: the bounds of each group that took part, the whole being group zero. -/
structure Match where
  bounds : Nat → Option (Nat × Nat)
deriving Inhabited

namespace Match

/-- The match that slots describe. -/
def ofSlots (slots : Slots) : Match :=
  ⟨fun i => do return (← slots.lookup (2 * i), ← slots.lookup (2 * i + 1))⟩

def first (m : Match) : Nat :=
  ((m.bounds 0).map Prod.fst).getD 0

def stop (m : Match) : Nat :=
  ((m.bounds 0).map Prod.snd).getD 0

def isEmpty (m : Match) : Bool :=
  m.first == m.stop

/-- The text of a group, given the text from a place on. -/
def groupFrom? (m : Match) (place : Nat) (rest : List Char) (i : Nat) : Option (List Char) :=
  (m.bounds i).map fun b => (rest.drop (b.1 - place)).take (b.2 - b.1)

/-- The text of a group. -/
def group? (m : Match) (text : List Char) (i : Nat) : Option (List Char) :=
  m.groupFrom? 0 text i

end Match

/-- The first match at or after a place. -/
def matchFrom? (p : Pattern) (place : Place) : Option Match :=
  (p.program.search place).map Match.ofSlots

/-- The first match in a text. -/
def match? (p : Pattern) (text : String) : Option Match :=
  p.matchFrom? (Place.ofText text)

def isMatch (p : Pattern) (text : String) : Bool :=
  (p.match? text).isSome

/-- The next match at or after a place, other than an empty one at the end of the
previous match. -/
def nextMatch? (p : Pattern) (place : Place) (previous : Option Nat) : Option Match :=
  match p.matchFrom? place with
  | none => none
  | some m =>
      if m.isEmpty && previous == some m.stop then place.next?.bind p.matchFrom?
      else some m

/-- The matches from a place on, at most a number of them. -/
def matchesFrom (p : Pattern) : Nat → Place → Option Nat → List Match
  | 0, _, _ => []
  | bound + 1, place, previous =>
      match p.nextMatch? place previous with
      | none => []
      | some m =>
          m :: p.matchesFrom bound (place.advance (m.stop - place.index)) (some m.stop)

/-- All matches in a text.  There is at most one more than there are characters. -/
def matchesOf (p : Pattern) (text : String) : List Match :=
  p.matchesFrom (text.length + 1) (Place.ofText text) none

/-- Replace each of the matches in the text from a place on by an expanded template. -/
def replaceFrom (template : List Char) (place : Nat) (rest : List Char) :
    List Match → List Char
  | [] => rest
  | m :: ms =>
      let found := rest.drop (m.first - place)
      rest.take (m.first - place) ++
        (Template.expand (fun i => (m.groupFrom? m.first found i).getD []) template ++
          replaceFrom template m.stop (found.drop (m.stop - m.first)) ms)

/-- Replace all matches in a text.  In the replacement a backslash or dollar sign
with digits stands for the text of a group. -/
def replaceAll (p : Pattern) (text replacement : String) : String :=
  String.ofList
    (replaceFrom (Template.ofReferences replacement.toList) 0 text.toList (p.matchesOf text))

/-- The characters with a meaning in patterns. -/
def metaCharacters : List Char :=
  "\\.+*?()|[]\x7b\x7d^$#&-~".toList

/-- A pattern that matches exactly a text. -/
def escape (text : String) : String :=
  String.ofList (text.toList.flatMap fun c =>
    if metaCharacters.contains c then ['\\', c] else [c])

end Pattern

end EditGuard
