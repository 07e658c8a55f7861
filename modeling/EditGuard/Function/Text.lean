import EditGuard.Text.Case
import EditGuard.Text.Find
import EditGuard.Text.Letter
import EditGuard.Text.Blank
import EditGuard.Text.Lookalike
import EditGuard.Text.Markup
import EditGuard.Value.Order

/-!
# Functions on texts

What the functions of the rule language compute from the values of their
arguments.  Arguments are taken as texts or integers; one that is missing is the
empty text.
-/

namespace EditGuard.Function

/-- An argument as a text. -/
def textArg (args : List Value) (i : Nat) : String :=
  ((args[i]?).map Value.toText).getD ""

/-- An argument as an integer, if there is one. -/
def intArg? (args : List Value) (i : Nat) : Option Int :=
  (args[i]?).map fun v => v.toInt.toInt

/-- The first argument. -/
def firstArg (args : List Value) : Value :=
  args.headD .undefined

/-- A function from texts to texts. -/
def onText (f : String → String) (args : List Value) : Value :=
  .text (f (textArg args 0))

/-! ## Lengths and counts -/

/-- Items of a list, or characters of a text. -/
def length (args : List Value) : Value :=
  match firstArg args with
  | .list items => .ofNat items.length
  | v => .ofNat v.toText.length

/-- Items of a list, or parts of a text between commas. -/
def countItems (v : Value) : Value :=
  match v with
  | .list items => .ofNat items.length
  | v => .ofNat (v.toText.toList.count ',' + 1)

/-- How often the first text occurs in the second.  The empty text does not. -/
def countOccurrences (args : List Value) : Value :=
  let needle := (textArg args 0).toList
  if needle.isEmpty then .int 0
  else .ofNat (Text.occurrences needle 0 (textArg args 1).toList)

/-- The share of characters that are neither letters, numbers nor low lines. -/
def specialRatio (args : List Value) : Value :=
  let cs := (textArg args 0).toList
  if cs.isEmpty then .float 0
  else
    let specials := cs.countP fun c => !(Text.isAlphanumeric c || c == '_')
    .float (Float.ofNat specials / Float.ofNat cs.length)

/-! ## Leaving characters out -/

/-- Keep letters, numbers and blanks. -/
def withoutSpecials (s : String) : String :=
  String.ofList (s.toList.filter fun c => Text.isAlphanumeric c || Text.isBlank c)

/-- Leave out the blanks. -/
def withoutBlanks (s : String) : String :=
  String.ofList (s.toList.filter fun c => !Text.isBlank c)

/-- Of equal characters in a row keep the first, given the one before. -/
def dropRepeats (previous : Option Char) : List Char → List Char
  | [] => []
  | c :: cs =>
      if previous = some c then dropRepeats previous cs else c :: dropRepeats (some c) cs

/-- Keep one of equal characters in a row. -/
def withoutRepeats (s : String) : String :=
  String.ofList (dropRepeats none s.toList)

/-- The letters and numbers of a text as they look, none twice in a row. -/
def normalized (s : String) : String :=
  withoutBlanks (withoutSpecials (withoutRepeats (Text.foldLookalikes s)))

/-! ## Parts of texts -/

/-- A position that may count from the end, if negative. -/
def fromEnd (length position : Int) : Int :=
  if position < 0 then length + position else position

/-- The part of a text from a position, up to the end or of a given length.  A
negative length leaves out as many characters at the end. -/
def substringOf (s : List Char) (start : Int) (length? : Option Int) : List Char :=
  let n : Int := s.length
  let start := max 0 (fromEnd n start)
  let stop :=
    match length? with
    | none => n
    | some length => if length < 0 then n + length else min (start + length) n
  (s.drop start.toNat).take (stop - start).toNat

def substring (args : List Value) : Value :=
  .text (String.ofList
    (substringOf (textArg args 0).toList ((intArg? args 1).getD 0) (intArg? args 2)))

/-- The position of the first occurrence from an offset on.  The offset has to lie
in the text, and the empty text does not occur. -/
def positionIn? (hay needle : List Char) (offset : Int) : Option Nat :=
  let offset := fromEnd hay.length offset
  if needle.isEmpty ∨ offset < 0 ∨ (hay.length : Int) < offset then none
  else (Text.find? needle (hay.drop offset.toNat)).map (offset.toNat + ·)

/-- The position of a text in another one, or minus one. -/
def position (args : List Value) : Value :=
  match positionIn? (textArg args 0).toList (textArg args 1).toList ((intArg? args 2).getD 0) with
  | some i => .ofNat i
  | none => .int (-1)

/-- Put the third text in place of the second one in the first. -/
def replace (args : List Value) : Value :=
  let needle := (textArg args 1).toList
  if needle.isEmpty then .text (textArg args 0)
  else
    .text (String.ofList
      (Text.replaceAll needle (textArg args 2).toList 0 (textArg args 0).toList))

/-- Put characters in place of their references. -/
def withoutReferences (s : String) : String :=
  String.ofList (Text.withoutReferences 0 s.toList)

/-! ## Tests -/

/-- Whether a text that is not empty occurs in another one. -/
def contains (needle hay : String) : Bool :=
  !needle.isEmpty && Text.occursIn needle hay

/-- Whether the first text contains any of the others, or all of them, once all
have been prepared. -/
def containsSome (prepare : String → String) (args : List Value) : Value :=
  let hay := prepare (firstArg args).toText
  .bool (args.tail.any fun needle => contains (prepare needle.toText) hay)

def containsAll (prepare : String → String) (args : List Value) : Value :=
  let hay := prepare (firstArg args).toText
  .bool (args.tail.all fun needle => contains (prepare needle.toText) hay)

/-- Whether the first value strictly equals any of the others. -/
def equalsAny (args : List Value) : Value :=
  .bool (args.tail.any fun v => v.strictEq (firstArg args))

end EditGuard.Function
