import EditGuard.Difference.Hunk
import EditGuard.Text.Markup
import EditGuard.Variable.Script

/-!
# Methods that need no host

What the intrinsic methods compute from the variables that their parameters
name.
-/

namespace EditGuard.Variable

/-- Go on with the variable that a parameter names. -/
def readParam (params : List Value) (i : Nat) (next : Value → Script) : Script :=
  match params[i]? with
  | some (.text name) =>
      .read name .lax fun outcome =>
        match outcome with
        | .ok v => next v
        | .error f => .fail f
  | some v =>
      .fail (.other s!"lazy variable parameter {i} must name a variable, got {v.toJsonText}")
  | none => .fail (.other s!"lazy variable parameter {i} is missing")

/-- The links in a value: a list of links, one link, or none. -/
def linksOf : Value → List String
  | .list items => items.map Value.toText
  | .undefined | .null => []
  | v => [v.toText]

/-- The links of the first value that the second one lacks. -/
def linksOnlyIn (first second : Value) : Value :=
  let others := linksOf second
  .ofTexts ((linksOf first).filter fun link => !others.contains link)

/-- The mark of the lines that a side of a difference has. -/
def sideMark (side : Option Value) : Char :=
  if side.map Value.toText = some "removed" then '-' else '+'

/-- The difference of two integers, or the nearest integer that exists. -/
def subtract (a b : Int64) : Int64 :=
  Int64.ofInt (max Int64.minValue.toInt (min Int64.maxValue.toInt (a.toInt - b.toInt)))

/-- The script of a method that needs no host. -/
def Intrinsic.script (i : Intrinsic) (params : List Value) : Script :=
  let first (next : Value → Script) : Script := readParam params 0 next
  let both (next : Value → Value → Script) : Script :=
    readParam params 0 fun a => readParam params 1 fun b => next a b
  match i with
  | .difference =>
      both fun old new => .done (.text (Difference.ofTexts old.toText new.toText))
  | .differenceSide =>
      first fun difference =>
        .done (.ofTexts (Difference.markedLines (sideMark params[1]?) difference.toText))
  | .length => first fun v => .done (.ofNat v.toText.length)
  | .subtraction => both fun a b => .done (.int (subtract a.toInt b.toInt))
  | .linksAdded => both fun old new => .done (linksOnlyIn new old)
  | .linksRemoved => both fun old new => .done (linksOnlyIn old new)
  | .withoutTags =>
      first fun html =>
        .done (.text (String.ofList (Text.withoutTags false html.toText.toList)))
  | .lines =>
      first fun text =>
        .done (.ofTexts ((Text.feedLines text.toText.toList).map String.ofList))

end EditGuard.Variable
